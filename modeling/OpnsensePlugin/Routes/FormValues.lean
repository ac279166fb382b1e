import OpnsensePlugin.Management.Preserved
import OpnsensePlugin.Python.Decimal
import OpnsensePlugin.Routes.FirewallForm

/-!
# Forms that are accepted

What the values of an accepted form satisfy, and that a form which shows such
values is accepted with them. Stripping, lower case and the checks of ports
leave accepted values alone.
-/

namespace OpnsensePlugin

open Python

namespace FirewallForm

/-! ## Fields of a dictionary -/

section Fields

variable {name : Str}

theorem field_copied {resource : Resource} {row : List (Str × Json)} :
    field (copied resource row) name =
      if name ∈ copiedNames resource then field row name else none := by
  unfold copied
  generalize copiedNames resource = names
  induction names with
  | nil => rfl
  | cons head names ih =>
      cases found : field row head with
      | none =>
          rw [List.filterMap_cons_none (by simp [found]), ih]
          by_cases same : name = head
          · subst same
            simp [found]
          · simp [same]
      | some value =>
          rw [List.filterMap_cons_some (by simp [found]; rfl), field_cons, ih]
          by_cases same : name = head
          · subst same
            simp [found]
          · simp [same]

theorem field_updateFields {entries fields : List (Str × Json)} {name : Str} :
    field (updateFields entries fields) name = (field entries.reverse name).or (field fields name) :=
  field_foldl_setField

end Fields

variable [Runtime]

/-! ## Values of a form -/

section Values

variable {data : List (Str × Json)} {key default value : Str} {required allowRange : Bool}

/-- A text that a form keeps as it is -/
structure IsFormText (key value : Str) : Prop where
  short : value.length ≤ lengthLimit key
  clean : 0 ∉ value
  stripped : strip value = value

omit [Runtime] in
theorem formText_eq_ok : formText data key default required = .ok value ↔
    ∃ written, fieldD data key (.str default) = .str written ∧
      written.length ≤ lengthLimit key ∧ 0 ∉ written ∧
      (required = true → strip written ≠ []) ∧ value = strip written := by
  unfold formText
  cases fieldD data key (.str default) with
  | str written =>
      simp only [bind_eq_ok, raiseIf_eq_ok, pure_eq_ok, exists_and_left, exists_const,
        decide_eq_false_iff_not, Nat.not_lt, Bool.or_eq_false_iff, Bool.and_eq_false_imp,
        List.isEmpty_eq_false_iff, Json.str.injEq, exists_eq_left', ne_eq, and_assoc]
  | _ => simp

omit [Runtime] in
theorem isFormText_of_formText (parsed : formText data key default required = .ok value) :
    IsFormText key value ∧ (required = true → value ≠ []) := by
  rcases formText_eq_ok.mp parsed with ⟨written, _, short, clean, some, rfl⟩
  refine ⟨⟨strip_within.length_le.trans short, ?_, strip_strip⟩, some⟩
  exact fun zero => clean (strip_within.subset zero)

omit [Runtime] in
theorem formText_of_isFormText (found : field data key = some (.str value))
    (text : IsFormText key value) (some : required = true → value ≠ []) :
    formText data key default required = .ok value := by
  refine formText_eq_ok.mpr ⟨value, ?_, text.short, text.clean, ?_, text.stripped.symm⟩
  · simp [fieldD, found]
  · rw [text.stripped]
    exact some

omit [Runtime] in
theorem checkChoice_eq_ok {choices : List Str} {name result : Str} :
    checkChoice value name choices = .ok result ↔ value ∈ choices ∧ result = value := by
  unfold checkChoice
  by_cases member : value ∈ choices
  · simp [member]
  · simp [member]

omit [Runtime] in
theorem isChoice_of_formChoice {choices : List Str}
    (parsed : formChoice data key default choices = .ok value) :
    IsFormText key value ∧ value ∈ choices := by
  simp only [formChoice, bind_eq_ok, checkChoice_eq_ok] at parsed
  rcases parsed with ⟨written, parsed, member, rfl⟩
  exact ⟨(isFormText_of_formText parsed).1, member⟩

omit [Runtime] in
theorem formChoice_of_isChoice {choices : List Str} (found : field data key = some (.str value))
    (text : IsFormText key value) (member : value ∈ choices) :
    formChoice data key default choices = .ok value := by
  simp only [formChoice, bind_eq_ok, checkChoice_eq_ok]
  exact ⟨value, formText_of_isFormText found text (by simp), member, rfl⟩

/-- A port that a form keeps as it is -/
structure IsFormPort (key value : Str) (allowRange : Bool) : Prop where
  text : IsFormText key value
  usable : value = [] ∨ Runtime.lower value ≠ "any" ∧ checkPort key value allowRange = .ok ()

theorem isFormPort_of_formPort (parsed : formPort data key required allowRange = .ok value) :
    IsFormPort key value allowRange ∧ (required = true → value ≠ []) := by
  simp only [formPort, bind_eq_ok, raiseIf_eq_ok] at parsed
  rcases parsed with ⟨written, parsed, _, some, checked⟩
  have text := (isFormText_of_formText parsed).1
  by_cases any : Runtime.lower written = "any"
  · have blank : IsFormText key [] := ⟨Nat.zero_le _, by simp, rfl⟩
    simp only [any, if_true, List.isEmpty_nil, Bool.and_true, pure_eq_ok] at some checked
    subst checked
    exact ⟨⟨blank, .inl rfl⟩, by simp [some]⟩
  · simp only [any, if_false] at some checked
    by_cases blank : written.isEmpty = true
    · simp only [blank, if_true, pure_eq_ok, Bool.and_true] at some checked
      subst checked
      rw [List.isEmpty_iff] at blank
      exact ⟨⟨text, .inl blank⟩, by simp [some]⟩
    · simp only [blank, Bool.false_eq_true, if_false, bind_eq_ok, pure_eq_ok] at checked
      rcases checked with ⟨_, checked, rfl⟩
      exact ⟨⟨text, .inr ⟨any, checked⟩⟩, fun _ => by simpa using blank⟩

theorem formPort_of_isFormPort (found : field data key = some (.str value))
    (port : IsFormPort key value allowRange) (some : required = true → value ≠ []) :
    formPort data key required allowRange = .ok value := by
  have read : formText data key [] required = .ok value :=
    formText_of_isFormText found port.text some
  have needed : (required && value.isEmpty) = false := by
    cases required with
    | false => rfl
    | true => simpa using some rfl
  simp only [formPort, bind_eq_ok, raiseIf_eq_ok]
  refine ⟨value, read, ?_⟩
  rcases port.usable with rfl | ⟨other, checked⟩
  · simpa using needed
  · cases blank : value.isEmpty with
    | true =>
        rw [List.isEmpty_iff] at blank
        subst blank
        simpa using needed
    | false => simp [other, blank, checked]

end Values

omit [Runtime] in
/-- A number in the range of `sequence` is read back from its text. -/
theorem formSequence_of_text {data : List (Str × Json)} {number : Int} (low : 1 ≤ number)
    (high : number ≤ 999999) (found : field data "sequence" = some (.str (intText number))) :
    formSequence data = .ok number := by
  rcases Int.eq_ofNat_of_zero_le (by omega : 0 ≤ number) with ⟨n, rfl⟩
  have fits : (natText n).length ≤ 6 := by
    rw [natText, List.length_map]
    exact (Nat.length_toDigits_le_iff (by decide) (by decide)).mpr (by omega)
  have parsed := parseInt_natText (fits.trans (by decide))
  have written : intText (n : Int) = natText n := rfl
  have read : readSequence (.str (natText n)) = .ok (.int n) := by
    simp only [readSequence, isDigit_natText, if_true, Json.toInt, parsed]
    rfl
  simp [formSequence, fieldD, found, written, read, low, high, bind, Except.bind, raiseIf, pure,
    Except.pure]


/-! ## Accepted forms -/

/-- The case of ASCII letters, which the interpreter's tables agree on -/
def LowersAscii : Prop :=
  ∀ text : Str, isAscii text = true → Runtime.lower text = text.map asciiLower

omit [Runtime] in
theorem lowersAscii : @LowersAscii Runtime.ascii := by
  intro text _
  refine List.map_congr_left ?_
  intro c _
  simp [asciiLower]

section Common

variable {form : CommonForm} {data : List (Str × Json)} {input : CommonInput}

structure IsCommon (form : CommonForm) (input : CommonInput) : Prop where
  sequence : 1 ≤ input.sequence ∧ input.sequence ≤ 999999
  interface : IsFormText "interface" input.interface ∧ input.interface ≠ []
  ipprotocol : IsFormText "ipprotocol" input.ipprotocol ∧ input.ipprotocol ∈ ipprotocols
  protocol : input.protocol ∈ protocols
  sourceNet : IsFormText "source_net" input.sourceNet ∧ input.sourceNet ≠ []
  sourcePort : IsFormPort "source_port" input.sourcePort true
  destinationNet : IsFormText "destination_net" input.destinationNet ∧ input.destinationNet ≠ []
  destinationPort : IsFormPort "destination_port" input.destinationPort true ∧
    (form.destinationPort = true → input.destinationPort ≠ [])
  description : IsFormText "description" input.description

/-- The form shows the values of the input. -/
structure ShowsCommon (data : List (Str × Json)) (input : CommonInput) : Prop where
  sequence : field data "sequence" = some (.str (intText input.sequence))
  interface : field data "interface" = some (.str input.interface)
  ipprotocol : field data "ipprotocol" = some (.str input.ipprotocol)
  protocol : field data "protocol" = some (.str input.protocol)
  sourceNet : field data "source_net" = some (.str input.sourceNet)
  sourcePort : field data "source_port" = some (.str input.sourcePort)
  destinationNet : field data "destination_net" = some (.str input.destinationNet)
  destinationPort : field data "destination_port" = some (.str input.destinationPort)
  description : field data "description" = some (.str input.description)
  enabled : field data "enabled" = some (.bool input.enabled)

omit [Runtime] in
theorem bounds_of_formSequence {number : Int} (parsed : formSequence data = .ok number) :
    1 ≤ number ∧ number ≤ 999999 := by
  simp only [formSequence, bind_eq_ok] at parsed
  rcases parsed with ⟨value, _, parsed⟩
  cases value with
  | int value =>
      simp only [bind_eq_ok, raiseIf_eq_ok, pure_eq_ok] at parsed
      rcases parsed with ⟨_, inside, rfl⟩
      simpa using inside
  | _ => cases parsed

theorem mem_protocols_of_formProtocol {default protocol : Str}
    (parsed : formProtocol data default = .ok protocol) : protocol ∈ protocols := by
  simp only [formProtocol, bind_eq_ok, checkChoice_eq_ok] at parsed
  rcases parsed with ⟨_, _, member, rfl⟩
  exact member

theorem isCommon_of_parseCommon (parsed : parseCommon form data = .ok input) :
    IsCommon form input := by
  simp only [parseCommon, bind_eq_ok, pure_eq_ok] at parsed
  rcases parsed with ⟨sequence, sequenceOk, interface, interfaceOk, ipprotocol, ipprotocolOk,
    protocol, protocolOk, sourceNet, sourceNetOk, sourcePort, sourcePortOk, destinationNet,
    destinationNetOk, destinationPort, destinationPortOk, description, descriptionOk, enabled,
    _, rfl⟩
  have interface := isFormText_of_formText interfaceOk
  have sourceNet := isFormText_of_formText sourceNetOk
  have destinationNet := isFormText_of_formText destinationNetOk
  exact {
    sequence := bounds_of_formSequence sequenceOk
    interface := ⟨interface.1, interface.2 rfl⟩
    ipprotocol := isChoice_of_formChoice ipprotocolOk
    protocol := mem_protocols_of_formProtocol protocolOk
    sourceNet := ⟨sourceNet.1, sourceNet.2 rfl⟩
    sourcePort := (isFormPort_of_formPort sourcePortOk).1
    destinationNet := ⟨destinationNet.1, destinationNet.2 rfl⟩
    destinationPort := isFormPort_of_formPort destinationPortOk
    description := (isFormText_of_formText descriptionOk).1 }

theorem lower_of_mem_protocols (ascii : LowersAscii) {protocol : Str}
    (member : protocol ∈ protocols) : Runtime.lower protocol = protocol := by
  have known : ∀ protocol ∈ protocols,
      isAscii protocol = true ∧ protocol.map asciiLower = protocol := by
    decide +kernel
  rw [ascii protocol (known protocol member).1]
  exact (known protocol member).2

/-- The protocol as OPNsense writes it -/
def nativeProtocol (protocol : Str) : Str :=
  if protocol = "tcp/udp" then "TCP/UDP" else protocol

theorem lower_nativeProtocol (ascii : LowersAscii) {protocol : Str}
    (member : protocol ∈ protocols) : Runtime.lower (nativeProtocol protocol) = protocol := by
  unfold nativeProtocol
  by_cases both : protocol = "tcp/udp"
  · rw [if_pos both, both, ascii "TCP/UDP" (by decide)]
    decide
  · rw [if_neg both]
    exact lower_of_mem_protocols ascii member

omit [Runtime] in
theorem ne_nil_of_mem {value : Str} {choices : List Str} (member : value ∈ choices)
    (visible : [] ∉ choices) : value ≠ [] := by
  rintro rfl
  exact visible member

omit [Runtime] in
theorem nativeProtocol_ne_nil {protocol : Str} (member : protocol ∈ protocols) :
    nativeProtocol protocol ≠ [] := by
  have known : ∀ protocol ∈ protocols, nativeProtocol protocol ≠ [] := by decide +kernel
  exact known protocol member

omit [Runtime] in
theorem isFormText_of_mem_protocols {protocol : Str} (member : protocol ∈ protocols) :
    IsFormText "protocol" protocol := by
  have known : ∀ protocol ∈ protocols, protocol.length ≤ lengthLimit "protocol" ∧
      0 ∉ protocol ∧ strip protocol = protocol := by
    decide +kernel
  rcases known protocol member with ⟨short, clean, stripped⟩
  exact ⟨short, clean, stripped⟩

omit [Runtime] in
theorem formBool_of_field {key : Str} {default value : Bool}
    (found : field data key = some (.bool value)) : formBool data key default = .ok value := by
  simp [formBool, fieldD, found]

theorem parseCommon_of_shows (ascii : LowersAscii) (valid : IsCommon form input)
    (shows_ : ShowsCommon data input) : parseCommon form data = .ok input := by
  have protocol : formProtocol data form.protocol = .ok input.protocol := by
    simp only [formProtocol, bind_eq_ok, checkChoice_eq_ok]
    have lower := lower_of_mem_protocols ascii valid.protocol
    refine ⟨input.protocol, ?_, ?_, lower.symm⟩
    · exact formText_of_isFormText shows_.protocol (isFormText_of_mem_protocols valid.protocol)
        (by simp)
    · rw [lower]
      exact valid.protocol
  simp only [parseCommon, bind_eq_ok, pure_eq_ok]
  exact ⟨_, formSequence_of_text valid.sequence.1 valid.sequence.2 shows_.sequence,
    _, formText_of_isFormText shows_.interface valid.interface.1 fun _ => valid.interface.2,
    _, formChoice_of_isChoice shows_.ipprotocol valid.ipprotocol.1 valid.ipprotocol.2,
    _, protocol,
    _, formText_of_isFormText shows_.sourceNet valid.sourceNet.1 fun _ => valid.sourceNet.2,
    _, formPort_of_isFormPort shows_.sourcePort valid.sourcePort (by simp),
    _, formText_of_isFormText shows_.destinationNet valid.destinationNet.1
      fun _ => valid.destinationNet.2,
    _, formPort_of_isFormPort shows_.destinationPort valid.destinationPort.1
      valid.destinationPort.2,
    _, formText_of_isFormText shows_.description valid.description (by simp),
    _, formBool_of_field shows_.enabled, rfl⟩

end Common

/-! ## Rules -/

section Rules

variable {data : List (Str × Json)} {rule : RuleForm}

def RuleForm.common (rule : RuleForm) : CommonInput where
  interface := rule.input.interface
  ipprotocol := rule.input.ipprotocol
  protocol := rule.input.protocol
  sourceNet := rule.input.sourceNet
  sourcePort := rule.input.sourcePort
  destinationNet := rule.input.destinationNet
  destinationPort := rule.input.destinationPort
  description := rule.input.description
  enabled := rule.input.enabled
  sequence := rule.input.sequence

structure IsRule (rule : RuleForm) : Prop where
  common : IsCommon ruleForm rule.common
  action : IsFormText "action" rule.input.action ∧
    rule.input.action ∈ (["pass", "block", "reject"] : List Str)
  direction : IsFormText "direction" rule.input.direction ∧
    rule.input.direction ∈ (["in", "out", "any"] : List Str)

structure ShowsRule (data : List (Str × Json)) (rule : RuleForm) : Prop where
  common : ShowsCommon data rule.common
  action : field data "action" = some (.str rule.input.action)
  direction : field data "direction" = some (.str rule.input.direction)
  log : field data "log" = some (.bool rule.log)
  quick : field data "quick" = some (.bool rule.quick)

theorem isRule_of_parseRule (parsed : parseRule data = .ok rule) : IsRule rule := by
  simp only [parseRule, bind_eq_ok, pure_eq_ok] at parsed
  rcases parsed with ⟨common, commonOk, action, actionOk, direction, directionOk, log, _, quick,
    _, rfl⟩
  exact ⟨isCommon_of_parseCommon commonOk, isChoice_of_formChoice actionOk,
    isChoice_of_formChoice directionOk⟩

theorem parseRule_of_shows (ascii : LowersAscii) (valid : IsRule rule)
    (shows_ : ShowsRule data rule) : parseRule data = .ok rule := by
  simp only [parseRule, bind_eq_ok, pure_eq_ok]
  exact ⟨_, parseCommon_of_shows ascii valid.common shows_.common,
    _, formChoice_of_isChoice shows_.action valid.action.1 valid.action.2,
    _, formChoice_of_isChoice shows_.direction valid.direction.1 valid.direction.2,
    _, formBool_of_field shows_.log, _, formBool_of_field shows_.quick, rfl⟩

end Rules

/-! ## Port forwards -/

section PortForwards

variable {data : List (Str × Json)} {input : PortForwardInput}

def commonOf (input : PortForwardInput) : CommonInput where
  interface := input.interface
  ipprotocol := input.ipprotocol
  protocol := input.protocol
  sourceNet := input.sourceNet
  sourcePort := input.sourcePort
  destinationNet := input.destinationNet
  destinationPort := input.destinationPort
  description := input.description
  enabled := input.enabled
  sequence := input.sequence

structure IsPortForward (input : PortForwardInput) : Prop where
  common : IsCommon portForwardForm (commonOf input)
  protocol : input.protocol ∈ forwardedProtocols
  target : IsFormText "target" input.target ∧ input.target ≠ []
  targetPort : IsFormPort "target_port" input.targetPort false ∧ input.targetPort ≠ []
  filterAssociation : IsFormText "filter_association" input.filterAssociation ∧
    input.filterAssociation ∈ ([[], "pass", "rule"] : List Str)
  natreflection : IsFormText "natreflection" input.natreflection ∧
    input.natreflection ∈ ([[], "purenat", "disable"] : List Str)

structure ShowsPortForward (data : List (Str × Json)) (input : PortForwardInput) : Prop where
  common : ShowsCommon data (commonOf input)
  target : field data "target" = some (.str input.target)
  targetPort : field data "target_port" = some (.str input.targetPort)
  log : field data "log" = some (.bool input.log)
  filterAssociation : field data "filter_association" = some (.str input.filterAssociation)
  natreflection : field data "natreflection" = some (.str input.natreflection)

theorem isPortForward_of_parsePortForward (parsed : parsePortForward data = .ok input) :
    IsPortForward input := by
  simp only [parsePortForward, bind_eq_ok, pure_eq_ok, checkChoice_eq_ok] at parsed
  rcases parsed with ⟨common, commonOk, _, ⟨protocol, _⟩, target, targetOk, targetPort,
    targetPortOk, log, _, association, associationOk, reflection, reflectionOk, rfl⟩
  have target := isFormText_of_formText targetOk
  have targetPort := isFormPort_of_formPort targetPortOk
  exact {
    common := isCommon_of_parseCommon commonOk
    protocol
    target := ⟨target.1, target.2 rfl⟩
    targetPort := ⟨targetPort.1, targetPort.2 rfl⟩
    filterAssociation := isChoice_of_formChoice associationOk
    natreflection := isChoice_of_formChoice reflectionOk }

omit [Runtime] in
theorem withTargetPort_of_field {value : Json} (found : field data "target_port" = some value) :
    withTargetPort data = data := by
  simp [withTargetPort, found]

theorem parsePortForward_of_shows (ascii : LowersAscii) (valid : IsPortForward input)
    (shows_ : ShowsPortForward data input) : parsePortForward data = .ok input := by
  simp only [parsePortForward, bind_eq_ok, pure_eq_ok, checkChoice_eq_ok,
    withTargetPort_of_field shows_.targetPort]
  exact ⟨_, parseCommon_of_shows ascii valid.common shows_.common,
    _, ⟨valid.protocol, rfl⟩,
    _, formText_of_isFormText shows_.target valid.target.1 fun _ => valid.target.2,
    _, formPort_of_isFormPort shows_.targetPort valid.targetPort.1 fun _ => valid.targetPort.2,
    _, formBool_of_field shows_.log,
    _, formChoice_of_isChoice shows_.filterAssociation valid.filterAssociation.1
      valid.filterAssociation.2,
    _, formChoice_of_isChoice shows_.natreflection valid.natreflection.1 valid.natreflection.2,
    rfl⟩

end PortForwards

/-! ## Aliases -/

section Aliases

variable {data : List (Str × Json)} {input : AliasInput}

structure IsAlias (input : AliasInput) : Prop where
  name : IsFormText "name" input.name ∧ input.name ≠ []
  identifier : isAliasName input.name = true
  type : IsFormText "type" input.type ∧ input.type ∈ aliasTypes
  content : IsFormText "content" input.content ∧ (input.type ≠ "external" → input.content ≠ [])
  description : IsFormText "description" input.description
  proto : IsFormText "proto" input.proto

structure ShowsAlias (data : List (Str × Json)) (input : AliasInput) : Prop where
  name : field data "name" = some (.str input.name)
  type : field data "type" = some (.str input.type)
  content : field data "content" = some (.str input.content)
  description : field data "description" = some (.str input.description)
  enabled : field data "enabled" = some (.bool input.enabled)
  proto : field data "proto" = some (.str input.proto)

omit [Runtime] in
theorem isAlias_of_parseAlias (parsed : parseAlias data = .ok input) : IsAlias input := by
  simp only [parseAlias, bind_eq_ok, pure_eq_ok, raiseIf_eq_ok] at parsed
  rcases parsed with ⟨name, nameOk, _, identifier, type, typeOk, content, contentOk, description,
    descriptionOk, enabled, _, proto, protoOk, rfl⟩
  have name := isFormText_of_formText nameOk
  have content := isFormText_of_formText contentOk
  exact {
    name := ⟨name.1, name.2 rfl⟩
    identifier := by simpa using identifier
    type := isChoice_of_formChoice typeOk
    content := ⟨content.1, fun needed => content.2 (by simpa using needed)⟩
    description := (isFormText_of_formText descriptionOk).1
    proto := (isFormText_of_formText protoOk).1 }

omit [Runtime] in
theorem parseAlias_of_shows (valid : IsAlias input) (shows_ : ShowsAlias data input) :
    parseAlias data = .ok input := by
  simp only [parseAlias, bind_eq_ok, pure_eq_ok, raiseIf_eq_ok]
  refine ⟨_, formText_of_isFormText shows_.name valid.name.1 fun _ => valid.name.2,
    (), by simpa using valid.identifier,
    _, formChoice_of_isChoice shows_.type valid.type.1 valid.type.2,
    _, formText_of_isFormText shows_.content valid.content.1 ?_,
    _, formText_of_isFormText shows_.description valid.description (by simp),
    _, formBool_of_field shows_.enabled,
    _, formText_of_isFormText shows_.proto valid.proto (by simp), rfl⟩
  intro needed
  exact valid.content.2 (by simpa using needed)

end Aliases

end FirewallForm

end OpnsensePlugin
