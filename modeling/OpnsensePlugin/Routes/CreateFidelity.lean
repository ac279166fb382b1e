import OpnsensePlugin.Python.FlatObject
import OpnsensePlugin.Routes.DeletePath

/-!
# What a legacy create sends

Each page reads the object of a request into the input of its writer, and the
writer turns the input into OPNsense's own names. `createFields` lists what the
fields of a page mean; the pages send that, except where a value that counts as
false is replaced and where an empty text takes the place of a default.
-/

namespace OpnsensePlugin

open Effects Python

/-! ## The meaning of a request -/

/-- What a field of a request holds, with the default of the input class -/
inductive CreateKind
  | text (default : Str)
  /-- A text that is left out where it is empty -/
  | optionalText
  | flag (default : Bool)
  /-- A flag whose native name means the opposite -/
  | oppositeFlag (default : Bool)
  | number (default : Int)
deriving DecidableEq

structure CreateField where
  name : Str
  native : Str
  kind : CreateKind
deriving DecidableEq

namespace CreateKind

variable [Runtime]

/-- Texts may be given as numbers. -/
def Documents : CreateKind → Json → Prop
  | text _, value | optionalText, value => (∃ given, value = .str given) ∨ ∃ given, value = .int given
  | flag _, value | oppositeFlag _, value => ∃ given, value = .bool given
  | number _, value => ∃ given, value = .int given

def meantText (default : Str) : Option Json → Str
  | none => default
  | some value => if value.text = [] then default else value.text

def meantFlag (default : Bool) : Option Json → Bool
  | some (.bool given) => given
  | _ => default

def meantNumber (default : Int) : Option Json → Int
  | some (.int given) => given
  | _ => default

/-- What the payload is to hold for a field that is given or absent -/
def meant : CreateKind → Option Json → Option Json
  | text default, given => some (.str (meantText default given))
  | optionalText, given =>
      if meantText [] given = [] then none else some (.str (meantText [] given))
  | flag default, given => some (flagText (meantFlag default given))
  | oppositeFlag default, given => some (flagText (!meantFlag default given))
  | number default, given => some (.str (intText (meantNumber default given)))

end CreateKind

namespace LegacyPage

/-- The key of the payload, under which the native fields are -/
def payloadKey : LegacyPage → Str
  | nat | oneToOne => "rule"
  | unbound => "host"
  | unboundDomains | unboundDots => "dot"
  | dhcp => "reservation"
  | dhcpSubnet => "subnet4"
  | wg => "client"

/-- The fields of a request, with the defaults of the input classes -/
def createFields : LegacyPage → List CreateField
  | nat => [
      ⟨"interface", "interface", .text []⟩,
      ⟨"target", "target", .text []⟩,
      ⟨"source_net", "source_net", .text "any"⟩,
      ⟨"destination_net", "destination_net", .text "any"⟩,
      ⟨"description", "description", .text []⟩,
      ⟨"enabled", "disabled", .oppositeFlag true⟩,
      ⟨"ipprotocol", "ipprotocol", .text "inet"⟩,
      ⟨"protocol", "protocol", .text "any"⟩]
  | oneToOne => [
      ⟨"interface", "interface", .text []⟩,
      ⟨"external", "external", .text []⟩,
      ⟨"source_net", "source_net", .text []⟩,
      ⟨"destination_net", "destination_net", .text "any"⟩,
      ⟨"description", "description", .text []⟩,
      ⟨"enabled", "enabled", .flag true⟩,
      ⟨"type", "type", .text "binat"⟩,
      ⟨"log", "log", .flag false⟩,
      ⟨"sequence", "sequence", .text "100"⟩]
  | unbound => [
      ⟨"hostname", "hostname", .text []⟩,
      ⟨"domain", "domain", .text []⟩,
      ⟨"server", "server", .text []⟩,
      ⟨"rr", "rr", .text "A"⟩,
      ⟨"description", "description", .text []⟩,
      ⟨"enabled", "enabled", .flag true⟩]
  | unboundDomains => [
      ⟨"domain", "domain", .text []⟩,
      ⟨"server", "server", .text []⟩,
      ⟨"description", "description", .text []⟩,
      ⟨"enabled", "enabled", .flag true⟩]
  | unboundDots => [
      ⟨"domain", "domain", .text []⟩,
      ⟨"server", "server", .text []⟩,
      ⟨"verify", "verify", .text []⟩,
      ⟨"port", "port", .text "853"⟩,
      ⟨"description", "description", .text []⟩,
      ⟨"enabled", "enabled", .flag true⟩,
      ⟨"forward_tcp_upstream", "forward_tcp_upstream", .flag false⟩,
      ⟨"forward_first", "forward_first", .flag false⟩]
  | dhcp => [
      ⟨"subnet", "subnet", .text []⟩,
      ⟨"ip_address", "ip_address", .text []⟩,
      ⟨"hw_address", "hw_address", .text []⟩,
      ⟨"hostname", "hostname", .text []⟩,
      ⟨"description", "description", .text []⟩]
  | dhcpSubnet => [
      ⟨"subnet", "subnet", .text []⟩,
      ⟨"description", "description", .text []⟩,
      ⟨"pools", "pools", .text []⟩,
      ⟨"next_server", "next_server", .text []⟩,
      ⟨"match_client_id", "match-client-id", .flag true⟩]
  | wg => [
      ⟨"name", "name", .text []⟩,
      ⟨"pubkey", "pubkey", .text []⟩,
      ⟨"tunneladdress", "tunneladdress", .text []⟩,
      ⟨"keepalive", "keepalive", .number 25⟩,
      ⟨"psk", "psk", .optionalText⟩,
      ⟨"enabled", "enabled", .flag true⟩]

variable [Runtime]

/-- The fields of the request have the types of the input class. -/
def Documented (page : LegacyPage) (given : List (Str × Json)) : Prop :=
  ∀ entry ∈ page.createFields, ∀ value, field given entry.name = some value →
    entry.kind.Documents value

/-- The payload holds what the request means, field by field. -/
def Carries (page : LegacyPage) (given : List (Str × Json)) (payload : Json) : Prop :=
  ∃ native, payload = .obj [(page.payloadKey, .obj native)] ∧
    ∀ entry ∈ page.createFields, field native entry.native = entry.kind.meant (field given entry.name)

/-- No empty text stands where the page has a default of its own but does not use it, and no
keepalive is zero. -/
def Kept : LegacyPage → List (Str × Json) → Prop
  | nat, given => field given "protocol" ≠ some (.str [])
  | oneToOne, given => field given "sequence" ≠ some (.str [])
  | wg, given => field given "keepalive" ≠ some (.int 0)
  | _, _ => True

end LegacyPage

/-! ## The first request of a creation -/

namespace LegacyWriter

variable [Runtime] {Input : Type} {writer : LegacyWriter Input} {context : LegacyContext}
  {input : Input} {trace : Trace Party}

theorem AddRun.first_post {result : Except Exn (Except LegacyResult Str)}
    (block : AddRun writer context input trace result) :
    ∃ reply rest, posts trace =
      ⟨.client, writer.path writer.addName, sentBody (writer.toPayload input), reply⟩ :: rest := by
  cases block <;> exact ⟨_, _, rfl⟩

theorem CreateRun.first_post {outcome : Except Exn LegacyResult}
    (run : CreateRun writer context input trace outcome) :
    ∃ reply rest, posts trace =
      ⟨.client, writer.path writer.addName, sentBody (writer.toPayload input), reply⟩ :: rest := by
  cases run with
  | raised block =>
      rcases AddRun.first_post block with ⟨reply, rest, same⟩
      exact ⟨reply, rest, by simp [same]⟩
  | returned block =>
      rcases AddRun.first_post block with ⟨reply, rest, same⟩
      exact ⟨reply, rest, by simp [same]⟩
  | @finished _ ended front back _ _ _ block _ =>
      rcases AddRun.first_post block with ⟨reply, rest, same⟩
      exact ⟨reply, rest ++ posts back, by simp [same]⟩

end LegacyWriter

/-! ## Values -/

section Values

open CreateKind

variable [Runtime] {given : List (Str × Json)} {name default : Str}

omit [Runtime] in
theorem intText_ne_nil {number : Int} : intText number ≠ [] := by
  cases number with
  | ofNat n => exact natText_ne_nil
  | negSucc n => exact List.cons_ne_nil _ _

theorem textIn_obj : textIn (.obj given) name default = .ok (fieldText given name (.str default)) :=
  rfl

omit [Runtime] in
theorem flagIn_obj {default : Bool} :
    flagIn (.obj given) name default = .ok (fieldD given name (.bool default)).truthy :=
  rfl

theorem meantText_eq :
    meantText default (field given name) = textOr (fieldText given name (.str default)) default := by
  cases found : field given name with
  | none => cases default <;> simp [meantText, fieldText, fieldD, found, textOr, Json.text]
  | some value =>
      have text : fieldText given name (.str default) = value.text := by
        simp [fieldText, fieldD, found]
      rw [text, meantText, textOr]
      simp

theorem meantText_blank : meantText [] (field given name) = fieldText given name := by
  rw [meantText_eq, textOr]
  split
  · rename_i blank
    exact (List.isEmpty_iff.mp blank).symm
  · rfl

theorem meantText_of_ne_nil (some : fieldText given name (.str default) ≠ []) :
    meantText default (field given name) = fieldText given name (.str default) := by
  rw [meantText_eq, textOr, if_neg (by simpa using some)]

/-- A default that the page does not use -/
theorem meantText_eq_iff (visible : default ≠ [])
    (documented : ∀ value, field given name = some value → (CreateKind.text default).Documents value) :
    fieldText given name (.str default) = meantText default (field given name) ↔
      field given name ≠ some (.str []) := by
  by_cases blank : fieldText given name (.str default) = []
  · have meant : meantText default (field given name) = default := by
      rw [meantText_eq, blank]
      rfl
    rw [meant, blank]
    cases found : field given name with
    | none => simp [fieldText, fieldD, found, Json.text, visible] at blank
    | some value =>
        rcases documented value found with ⟨text, rfl⟩ | ⟨number, rfl⟩
        · simp only [fieldText, fieldD, found, Option.getD_some, Json.text] at blank
          simp [blank, Ne.symm visible]
        · simp only [fieldText, fieldD, found, Option.getD_some, Json.text] at blank
          exact absurd blank intText_ne_nil
  · rw [meantText_of_ne_nil blank]
    refine ⟨fun _ absent => ?_, fun _ => rfl⟩
    apply blank
    simp [fieldText, fieldD, absent, Json.text]

omit [Runtime] in
theorem meantFlag_eq {default : Bool}
    (documented : ∀ value, field given name = some value → (CreateKind.flag default).Documents value) :
    meantFlag default (field given name) = (fieldD given name (.bool default)).truthy := by
  cases found : field given name with
  | none => simp [meantFlag, fieldD, found, Json.truthy]
  | some value =>
      rcases documented value found with ⟨flag, rfl⟩
      simp [meantFlag, fieldD, found, Json.truthy]

theorem carried_text {value : Str} (same : value = meantText default (field given name)) :
    some (Json.str value) = (CreateKind.text default).meant (field given name) := by
  rw [same]
  rfl

theorem carried_flag {default : Bool}
    (documented : ∀ value, field given name = some value → (CreateKind.flag default).Documents value) :
    some (flagText (fieldD given name (.bool default)).truthy) =
      (CreateKind.flag default).meant (field given name) := by
  rw [← meantFlag_eq documented]
  rfl

/-- A default that is sent only where the field is absent; an empty text is refused. -/
theorem carried_checked {choices : List Str} (visible : [] ∉ choices)
    (member : fieldText given name (.str default) ∈ choices) :
    some (Json.str (fieldText given name (.str default))) =
      (CreateKind.text default).meant (field given name) := by
  refine carried_text (meantText_of_ne_nil ?_).symm
  intro blank
  rw [blank] at member
  exact visible member

theorem carried_oppositeFlag {default : Bool}
    (documented : ∀ value, field given name = some value → (CreateKind.flag default).Documents value) :
    some (flagText (!(fieldD given name (.bool default)).truthy)) =
      (CreateKind.oppositeFlag default).meant (field given name) := by
  rw [← meantFlag_eq documented]
  rfl

end Values

/-! ## The pages -/

namespace LegacyPage

section

variable [Runtime] {given : List (Str × Json)}

theorem natRoute_carries {input : NatInput} (documented : nat.Documented given)
    (parsed : natRoute.parse (.obj given) = .ok input) (valid : input.validate = .ok ()) :
    nat.Carries given input.toPayload ↔ nat.Kept given := by
  have same : natRoute.parse (.obj given) = .ok {
      interface := fieldText given "interface"
      target := fieldText given "target"
      sourceNet := textOr (fieldText given "source_net" (.str "any")) "any"
      destinationNet := textOr (fieldText given "destination_net" (.str "any")) "any"
      description := fieldText given "description"
      enabled := (fieldD given "enabled" (.bool true)).truthy
      ipprotocol := fieldText given "ipprotocol" (.str "inet")
      protocol := fieldText given "protocol" (.str "any") } := rfl
  rw [same] at parsed
  cases parsed
  simp only [NatInput.validate, bind_eq_ok, raiseIf_eq_ok, decide_eq_false_iff_not,
    Decidable.not_not] at valid
  rcases valid with ⟨_, _, _, _, version⟩
  have protocol := @meantText_eq_iff _ given "protocol" "any" (by decide)
    (documented ⟨"protocol", "protocol", .text "any"⟩ (by decide))
  constructor
  · rintro ⟨native, payload, carried⟩
    cases payload
    have sent := carried ⟨"protocol", "protocol", .text "any"⟩ (by decide)
    exact protocol.mp (Json.str.inj (Option.some.inj sent))
  · intro kept
    refine ⟨_, rfl, ?_⟩
    intro entry member
    simp only [createFields, List.mem_cons, List.not_mem_nil, or_false] at member
    rcases member with rfl | rfl | rfl | rfl | rfl | rfl | rfl | rfl
    · exact carried_text meantText_blank.symm
    · exact carried_text meantText_blank.symm
    · exact carried_text meantText_eq.symm
    · exact carried_text meantText_eq.symm
    · exact carried_text meantText_blank.symm
    · exact carried_oppositeFlag (documented ⟨"enabled", "disabled", .oppositeFlag true⟩ (by decide))
    · exact carried_checked (by decide) version
    · exact carried_text (protocol.mpr kept)

theorem oneToOneRoute_carries {input : OneToOneNatInput} (documented : oneToOne.Documented given)
    (parsed : oneToOneRoute.parse (.obj given) = .ok input) (valid : input.validate = .ok ()) :
    oneToOne.Carries given input.toPayload ↔ oneToOne.Kept given := by
  have same : oneToOneRoute.parse (.obj given) = .ok {
      interface := fieldText given "interface"
      external := fieldText given "external"
      sourceNet := fieldText given "source_net"
      destinationNet := textOr (fieldText given "destination_net" (.str "any")) "any"
      description := fieldText given "description"
      enabled := (fieldD given "enabled" (.bool true)).truthy
      type := fieldText given "type" (.str "binat")
      log := (fieldD given "log" (.bool false)).truthy
      sequence := fieldText given "sequence" (.str "100") } := rfl
  rw [same] at parsed
  cases parsed
  simp only [OneToOneNatInput.validate, bind_eq_ok, raiseIf_eq_ok, decide_eq_false_iff_not,
    Decidable.not_not] at valid
  rcases valid with ⟨_, _, _, _, _, _, type⟩
  have sequence := @meantText_eq_iff _ given "sequence" "100" (by decide)
    (documented ⟨"sequence", "sequence", .text "100"⟩ (by decide))
  constructor
  · rintro ⟨native, payload, carried⟩
    cases payload
    have sent := carried ⟨"sequence", "sequence", .text "100"⟩ (by decide)
    exact sequence.mp (Json.str.inj (Option.some.inj sent))
  · intro kept
    refine ⟨_, rfl, ?_⟩
    intro entry member
    simp only [createFields, List.mem_cons, List.not_mem_nil, or_false] at member
    rcases member with rfl | rfl | rfl | rfl | rfl | rfl | rfl | rfl | rfl
    · exact carried_text meantText_blank.symm
    · exact carried_text meantText_blank.symm
    · exact carried_text meantText_blank.symm
    · exact carried_text meantText_eq.symm
    · exact carried_text meantText_blank.symm
    · exact carried_flag (documented ⟨"enabled", "enabled", .flag true⟩ (by decide))
    · exact carried_checked (by decide) type
    · exact carried_flag (documented ⟨"log", "log", .flag false⟩ (by decide))
    · exact carried_text (sequence.mpr kept)

theorem unboundRoute_carries {input : UnboundHostInput} (documented : unbound.Documented given)
    (parsed : unboundRoute.parse (.obj given) = .ok input) (valid : input.validate = .ok ()) :
    unbound.Carries given input.toPayload := by
  have same : unboundRoute.parse (.obj given) = .ok {
      hostname := fieldText given "hostname"
      domain := fieldText given "domain"
      server := fieldText given "server"
      rr := fieldText given "rr" (.str "A")
      description := fieldText given "description"
      enabled := (fieldD given "enabled" (.bool true)).truthy } := rfl
  rw [same] at parsed
  cases parsed
  simp only [UnboundHostInput.validate, bind_eq_ok, raiseIf_eq_ok, decide_eq_false_iff_not,
    Decidable.not_not] at valid
  rcases valid with ⟨_, _, _, _, _, _, record⟩
  refine ⟨_, rfl, ?_⟩
  intro entry member
  simp only [createFields, List.mem_cons, List.not_mem_nil, or_false] at member
  rcases member with rfl | rfl | rfl | rfl | rfl | rfl
  · exact carried_text meantText_blank.symm
  · exact carried_text meantText_blank.symm
  · exact carried_text meantText_blank.symm
  · exact carried_checked (by decide) record
  · exact carried_text meantText_blank.symm
  · exact carried_flag (documented ⟨"enabled", "enabled", .flag true⟩ (by decide))

theorem unboundDomainRoute_carries {input : UnboundDomainInput}
    (documented : unboundDomains.Documented given)
    (parsed : unboundDomainRoute.parse (.obj given) = .ok input) :
    unboundDomains.Carries given input.toPayload := by
  have same : unboundDomainRoute.parse (.obj given) = .ok {
      domain := fieldText given "domain"
      server := fieldText given "server"
      description := fieldText given "description"
      enabled := (fieldD given "enabled" (.bool true)).truthy } := rfl
  rw [same] at parsed
  cases parsed
  refine ⟨_, rfl, ?_⟩
  intro entry member
  simp only [createFields, List.mem_cons, List.not_mem_nil, or_false] at member
  rcases member with rfl | rfl | rfl | rfl
  · exact carried_text meantText_blank.symm
  · exact carried_text meantText_blank.symm
  · exact carried_text meantText_blank.symm
  · exact carried_flag (documented ⟨"enabled", "enabled", .flag true⟩ (by decide))

theorem unboundDotRoute_carries {input : UnboundDotInput}
    (documented : unboundDots.Documented given)
    (parsed : unboundDotRoute.parse (.obj given) = .ok input) :
    unboundDots.Carries given input.toPayload := by
  have same : unboundDotRoute.parse (.obj given) = .ok {
      domain := fieldText given "domain"
      server := fieldText given "server"
      verify := fieldText given "verify"
      port := textOr (fieldText given "port" (.str "853")) "853"
      description := fieldText given "description"
      enabled := (fieldD given "enabled" (.bool true)).truthy
      forwardTcpUpstream := (fieldD given "forward_tcp_upstream" (.bool false)).truthy
      forwardFirst := (fieldD given "forward_first" (.bool false)).truthy } := rfl
  rw [same] at parsed
  cases parsed
  refine ⟨_, rfl, ?_⟩
  intro entry member
  simp only [createFields, List.mem_cons, List.not_mem_nil, or_false] at member
  rcases member with rfl | rfl | rfl | rfl | rfl | rfl | rfl | rfl
  · exact carried_text meantText_blank.symm
  · exact carried_text meantText_blank.symm
  · exact carried_text meantText_blank.symm
  · exact carried_text meantText_eq.symm
  · exact carried_text meantText_blank.symm
  · exact carried_flag (documented ⟨"enabled", "enabled", .flag true⟩ (by decide))
  · exact carried_flag
      (documented ⟨"forward_tcp_upstream", "forward_tcp_upstream", .flag false⟩ (by decide))
  · exact carried_flag (documented ⟨"forward_first", "forward_first", .flag false⟩ (by decide))

theorem dhcpRoute_carries {input : DhcpReservationInput}
    (parsed : dhcpRoute.parse (.obj given) = .ok input) : dhcp.Carries given input.toPayload := by
  have same : dhcpRoute.parse (.obj given) = .ok {
      subnet := fieldText given "subnet"
      ipAddress := fieldText given "ip_address"
      hwAddress := fieldText given "hw_address"
      hostname := fieldText given "hostname"
      description := fieldText given "description" } := rfl
  rw [same] at parsed
  cases parsed
  refine ⟨_, rfl, ?_⟩
  intro entry member
  simp only [createFields, List.mem_cons, List.not_mem_nil, or_false] at member
  rcases member with rfl | rfl | rfl | rfl | rfl
  all_goals
    exact carried_text meantText_blank.symm

theorem dhcpSubnetRoute_carries {input : DhcpSubnetInput}
    (documented : dhcpSubnet.Documented given)
    (parsed : dhcpSubnetRoute.parse (.obj given) = .ok input) :
    dhcpSubnet.Carries given input.toPayload := by
  have same : dhcpSubnetRoute.parse (.obj given) = .ok {
      subnet := fieldText given "subnet"
      description := fieldText given "description"
      pools := fieldText given "pools"
      nextServer := fieldText given "next_server"
      matchClientId := (fieldD given "match_client_id" (.bool true)).truthy } := rfl
  rw [same] at parsed
  cases parsed
  refine ⟨_, rfl, ?_⟩
  intro entry member
  simp only [createFields, List.mem_cons, List.not_mem_nil, or_false] at member
  rcases member with rfl | rfl | rfl | rfl | rfl
  · exact carried_text meantText_blank.symm
  · exact carried_text meantText_blank.symm
  · exact carried_text meantText_blank.symm
  · exact carried_text meantText_blank.symm
  · exact carried_flag (documented ⟨"match_client_id", "match-client-id", .flag true⟩ (by decide))

omit [Runtime] in
/-- `int(p.get("keepalive", 25) or 25)`: zero is taken for an absent number. -/
theorem exists_keepalive
    (documented : ∀ value, field given "keepalive" = some value →
      (CreateKind.number 25).Documents value) :
    ∃ number : Int, (let value := fieldD given "keepalive" (.int 25)
      ((if value.truthy then value else .int 25).toInt : Except Exn Int) = .ok number) ∧
      (field given "keepalive" = some (.int 0) → number = 25) ∧
      (field given "keepalive" ≠ some (.int 0) →
        number = CreateKind.meantNumber 25 (field given "keepalive")) := by
  cases found : field given "keepalive" with
  | none => exact ⟨25, by simp [fieldD, found, Json.toInt], by simp, fun _ => rfl⟩
  | some value =>
      rcases documented value found with ⟨number, rfl⟩
      by_cases zero : number = 0
      · subst zero
        refine ⟨25, by simp [fieldD, found, Json.truthy, Json.toInt], by simp, ?_⟩
        exact fun other => absurd rfl other
      · refine ⟨number, by simp [fieldD, found, Json.truthy, zero, Json.toInt], ?_, fun _ => rfl⟩
        intro same
        cases same
        exact absurd rfl zero

theorem wgRoute_carries {input : WireguardPeerInput} (documented : wg.Documented given)
    (parsed : wgRoute.parse (.obj given) = .ok input) :
    wg.Carries given input.toPayload ↔ wg.Kept given := by
  have number := documented ⟨"keepalive", "keepalive", .number 25⟩ (by decide)
  rcases exists_keepalive number with ⟨keepalive, read, replaced, kept⟩
  have same : wgRoute.parse (.obj given) = .ok {
      name := fieldText given "name"
      pubkey := fieldText given "pubkey"
      tunneladdress := fieldText given "tunneladdress"
      keepalive
      psk := fieldText given "psk"
      enabled := (fieldD given "enabled" (.bool true)).truthy } := by
    have unfolded : wgRoute.parse (.obj given) =
        ((if (fieldD given "keepalive" (.int 25)).truthy then fieldD given "keepalive" (.int 25)
          else .int 25).toInt >>= fun keepalive => .ok {
            name := fieldText given "name"
            pubkey := fieldText given "pubkey"
            tunneladdress := fieldText given "tunneladdress"
            keepalive
            psk := fieldText given "psk"
            enabled := (fieldD given "enabled" (.bool true)).truthy }) := rfl
    rw [unfolded, read]
    rfl
  rw [same] at parsed
  cases parsed
  constructor
  · rintro ⟨native, payload, carried⟩ zero
    cases payload
    have sent := carried ⟨"keepalive", "keepalive", .number 25⟩ (by decide)
    rw [zero, replaced zero] at sent
    have written : intText 25 = intText 0 := Json.str.inj (Option.some.inj sent)
    exact absurd written (by decide)
  · intro other
    refine ⟨_, rfl, ?_⟩
    intro entry member
    simp only [createFields, List.mem_cons, List.not_mem_nil, or_false] at member
    rcases member with rfl | rfl | rfl | rfl | rfl | rfl
    · exact carried_text meantText_blank.symm
    · exact carried_text meantText_blank.symm
    · exact carried_text meantText_blank.symm
    · rw [CreateKind.meant, ← kept other]
      rfl
    · simp only [CreateKind.meant, meantText_blank]
      by_cases blank : fieldText given "psk" = []
      · rw [blank]
        rfl
      · have visible : (fieldText given "psk").isEmpty = false := by simpa using blank
        rw [if_neg blank, visible]
        rfl
    · exact carried_flag (documented ⟨"enabled", "enabled", .flag true⟩ (by decide))

/-- What a page sends for a valid request means the request exactly where `Kept` holds. -/
theorem carries_iff {page : LegacyPage} {input : page.kind.Input}
    (documented : page.Documented given) (parsed : page.route.parse (.obj given) = .ok input)
    (valid : page.kind.writer.validate input = .ok ()) :
    page.Carries given (page.kind.writer.toPayload input) ↔ page.Kept given := by
  cases page with
  | nat => exact natRoute_carries documented parsed valid
  | oneToOne => exact oneToOneRoute_carries documented parsed valid
  | unbound => exact iff_of_true (unboundRoute_carries documented parsed valid) trivial
  | unboundDomains => exact iff_of_true (unboundDomainRoute_carries documented parsed) trivial
  | unboundDots => exact iff_of_true (unboundDotRoute_carries documented parsed) trivial
  | dhcp => exact iff_of_true (dhcpRoute_carries parsed) trivial
  | dhcpSubnet => exact iff_of_true (dhcpSubnetRoute_carries documented parsed) trivial
  | wg => exact wgRoute_carries documented parsed

end

/-! ## The first request of a create -/

section

variable [Runtime] {State : Type} {before after : State} {trace : Trace Party}
  {page : LegacyPage} {host : Host} {body given : List (Str × Json)} {actor : Str}
  {readOnly : Bool}

/-- `body.get(key) or {}` -/
def objectOf (page : LegacyPage) (body : List (Str × Json)) : Json :=
  let value := fieldD body page.route.inputKey .null
  if value.truthy then value else .obj []

/-- A request to create that passes the checks of a page and of its writer -/
structure AcceptedCreate (page : LegacyPage) (host : Host) (body given : List (Str × Json))
    (readOnly : Bool) : Prop where
  writable : readOnly = false
  action : LegacyRoute.actionOf body = "create"
  https : requireHttps host = .ok ()
  object : page.objectOf body = .obj given
  valid : ∃ input, page.route.parse (.obj given) = .ok input ∧
    page.kind.writer.validate input = .ok ()

/-- What a page sends for an accepted create -/
theorem create_posts (accepted : AcceptedCreate page host body given readOnly)
    {outcome : Except Exn Response}
    (run : (page.route.actionPayload host body actor readOnly : Py Party State Response).Run
      before trace outcome after) :
    ∃ input reply rest, page.route.parse (.obj given) = .ok input ∧
      page.kind.writer.validate input = .ok () ∧
      posts trace = ⟨.client, page.kind.writer.path page.kind.writer.addName,
        page.kind.writer.toPayload input, reply⟩ :: rest := by
  rcases accepted.valid with ⟨input, parsed, valid⟩
  have apart : page.route.writer.searchPath ≠ HaVerifier.sysinfoPath := by
    rw [route_writer]
    exact page.kind.searchPath_ne_sysinfoPath
  have sent : ∀ {front middle result}, (page.route.writer.create
      (LegacyRoute.contextOf host actor) input : Py Party State _).Run before front result middle →
      ∃ reply rest, posts front = ⟨.client, page.kind.writer.path page.kind.writer.addName,
        page.kind.writer.toPayload input, reply⟩ :: rest := by
    intro front middle result run
    rcases LegacyWriter.create_run apart run with ⟨_, made⟩ | ⟨error, invalid, _⟩
    · have first := made.first_post
      rw [route_writer] at first
      rwa [sentBody, if_pos (page.kind.payload_truthy input)] at first
    · rw [route_writer, valid] at invalid
      cases invalid
  have created : ∀ {front middle result}, (page.route.create
      (LegacyRoute.contextOf host actor) body : Py Party State _).Run before front result middle →
      ∃ reply rest, posts front = ⟨.client, page.kind.writer.path page.kind.writer.addName,
        page.kind.writer.toPayload input, reply⟩ :: rest := by
    intro front middle result run
    have read : page.route.parse (if (fieldD body page.route.inputKey .null).truthy
        then fieldD body page.route.inputKey .null else .obj []) = .ok input := by
      rw [← parsed, ← accepted.object]
      rfl
    simp only [LegacyRoute.create, read] at run
    rw [Action.run_bind_attempt] at run
    rcases run with ⟨_, value, _, back, rfl, made, _, written⟩ | ⟨error, _, made, _⟩
    · rw [Action.run_ofExcept] at made
      rcases made with ⟨rfl, rfl, rfl⟩
      rw [Action.run_bind_attempt] at written
      rcases written with ⟨inside, result, _, rest, rfl, written, _, ended⟩ | ⟨error, _, written, _⟩
      · rcases sent written with ⟨reply, others, same⟩
        exact ⟨reply, others ++ posts rest, by simp [same]⟩
      · simpa using sent written
    · rw [Action.run_ofExcept] at made
      cases made.2.1
  have checked : LegacyRoute.actionOf body ∈ (["create", "delete"] : List Str) := by
    simp [accepted.action]
  rw [LegacyRoute.actionPayload, accepted.writable] at run
  simp only [Bool.false_eq_true, if_false, checked, not_true_eq_false] at run
  simp only [accepted.action, if_true] at run
  rw [Action.run_bind_ofExcept] at run
  rcases run with ⟨_, _, run⟩ | ⟨error, refused, _⟩
  · rw [Action.run_bind_attempt] at run
    rcases run with ⟨front, result, middle, back, rfl, run, _, rest⟩ | ⟨error, _, run, rfl⟩
    · rcases created run with ⟨reply, others, same⟩
      exact ⟨input, reply, others ++ posts back, parsed, valid, by simp [same]⟩
    · rcases created run with ⟨reply, others, same⟩
      exact ⟨input, reply, others, parsed, valid, same⟩
  · rw [accepted.https] at refused
    cases refused

/-- A create sends what its request means, unless a value is replaced or a default is missed. -/
theorem create_carries_iff (accepted : AcceptedCreate page host body given readOnly)
    (documented : page.Documented given) {outcome : Except Exn Response}
    (run : (page.route.actionPayload host body actor readOnly : Py Party State Response).Run
      before trace outcome after) :
    (∃ post rest, posts trace = post :: rest ∧
      post.path = page.kind.writer.path page.kind.writer.addName ∧
        page.Carries given post.body) ↔ page.Kept given := by
  rcases create_posts accepted run with ⟨input, reply, rest, parsed, valid, sent⟩
  rw [← carries_iff documented parsed valid]
  constructor
  · rintro ⟨post, others, same, _, carries⟩
    rw [sent] at same
    cases same
    exact carries
  · exact fun carries => ⟨_, rest, sent, rfl, carries⟩

end

/-! ## A keepalive of zero -/

/-- A peer with a keepalive -/
def peerOf (keepalive : Int) : List (Str × Json) :=
  [("name", .str "branch"), ("pubkey", .str "AAAAAAAAAAAAAAAAAAAAAAAAAAAAAAAAAAAAAAAAAAA="),
    ("tunneladdress", .str "10.99.0.5/32"), ("keepalive", .int keepalive)]

def peerBody (keepalive : Int) : List (Str × Json) :=
  [("action", .str "create"), ("peer", .obj (peerOf keepalive))]

/-- What is sent for a peer with that keepalive -/
def peerPayload (keepalive : Str) : Json :=
  .obj [("client", .obj [("enabled", .str "1"), ("name", .str "branch"),
    ("pubkey", .str "AAAAAAAAAAAAAAAAAAAAAAAAAAAAAAAAAAAAAAAAAAA="),
    ("tunneladdress", .str "10.99.0.5/32"), ("keepalive", .str keepalive)])]

def peerEntry : AuditEntry where
  ts := "2026-01-01T00:00:00Z"
  user := "qa"
  action := "wgpeer.create"
  target := "branch"
  host := "lab"
  result := "error"
  durationMs := 0
  detail := "timed out"
  payloadSha256 := []

/-- The firewall does not answer the creation. -/
def peerTrace (keepalive : Str) : Trace Party :=
  let now : Clock := ⟨"2026-01-01T00:00:00Z", 0⟩
  [⟨.clock, now⟩,
    ⟨.post .client "/api/wireguard/client/addClient" (peerPayload keepalive),
      .error (.timeout "timed out")⟩,
    ⟨.clock, now⟩, ⟨.append peerEntry, .ok ()⟩, ⟨.clock, now⟩]

def peerResponse : Response := refusal 502 "upstream" "timed out"

theorem peer_run_zero :
    (@LegacyRoute.actionPayload Runtime.ascii _ Unit (@route Runtime.ascii .wg) escapeHost
      (peerBody 0) "qa" false).Run () (peerTrace "25") (.ok peerResponse) () :=
  .ask _ (.ask _ (.ask _ (.ask _ (.ask _ (.refl _)))))

theorem peer_run_thirty :
    (@LegacyRoute.actionPayload Runtime.ascii _ Unit (@route Runtime.ascii .wg) escapeHost
      (peerBody 30) "qa" false).Run () (peerTrace "30") (.ok peerResponse) () :=
  .ask _ (.ask _ (.ask _ (.ask _ (.ask _ (.refl _)))))

theorem peer_accepted_zero :
    @AcceptedCreate Runtime.ascii .wg escapeHost (peerBody 0) (peerOf 0) false :=
  @AcceptedCreate.mk Runtime.ascii _ _ _ _ _ rfl (by decide) rfl rfl ⟨_, rfl, rfl⟩

theorem peer_accepted_thirty :
    @AcceptedCreate Runtime.ascii .wg escapeHost (peerBody 30) (peerOf 30) false :=
  @AcceptedCreate.mk Runtime.ascii _ _ _ _ _ rfl (by decide) rfl rfl ⟨_, rfl, rfl⟩

theorem peer_documented {keepalive : Int} :
    Documented .wg (peerOf keepalive) := by
  intro entry member value found
  simp only [createFields, List.mem_cons, List.not_mem_nil, or_false] at member
  rcases member with rfl | rfl | rfl | rfl | rfl | rfl
  · cases found
    exact .inl ⟨_, rfl⟩
  · cases found
    exact .inl ⟨_, rfl⟩
  · cases found
    exact .inl ⟨_, rfl⟩
  · cases found
    exact ⟨_, rfl⟩
  · cases found
  · cases found

theorem create_carries_thirty :
    ∃ post rest, posts (peerTrace "30") = post :: rest ∧
      post.path = "/api/wireguard/client/addClient" ∧
        @Carries Runtime.ascii .wg (peerOf 30) post.body := by
  have kept : Kept .wg (peerOf 30) := by
    intro same
    have number : (30 : Int) = 0 := Json.int.inj (Option.some.inj same)
    exact absurd number (by decide)
  exact (@create_carries_iff Runtime.ascii Unit () () (peerTrace "30") .wg escapeHost (peerBody 30)
    (peerOf 30) "qa" false peer_accepted_thirty peer_documented _ peer_run_thirty).mpr kept

/-- A keepalive of zero, which means disabled, is sent as 25 seconds. -/
theorem create_replaces_zero :
    @AcceptedCreate Runtime.ascii .wg escapeHost (peerBody 0) (peerOf 0) false ∧
      Documented .wg (peerOf 0) ∧
      (@LegacyRoute.actionPayload Runtime.ascii _ Unit (@route Runtime.ascii .wg) escapeHost
        (peerBody 0) "qa" false).Run () (peerTrace "25") (.ok peerResponse) () ∧
      (∃ reply rest, posts (peerTrace "25") =
        ⟨.client, "/api/wireguard/client/addClient", peerPayload "25", reply⟩ :: rest) ∧
      ¬ @Carries Runtime.ascii .wg (peerOf 0) (peerPayload "25") := by
  refine ⟨peer_accepted_zero, peer_documented, peer_run_zero, ⟨_, _, rfl⟩, ?_⟩
  rintro ⟨native, payload, carried⟩
  cases payload
  have sent := carried ⟨"keepalive", "keepalive", .number 25⟩ (by decide)
  have written : ("25" : Str) = "0" := Json.str.inj (Option.some.inj sent)
  exact absurd written (by decide)

end LegacyPage

end OpnsensePlugin
