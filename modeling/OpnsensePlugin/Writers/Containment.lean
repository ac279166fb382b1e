import OpnsensePlugin.Effects.Escapes
import OpnsensePlugin.Writers.ExecutionRuns
import OpnsensePlugin.Writers.Outcome

/-!
# Errors that escape the verified writer

The handlers of `_execute` catch the errors of the client and of the operating
system. An error of another class comes from an answer that cannot be decoded: an
object all of whose fields are options, an infinite demotion, a text that UTF-8
cannot encode. A monitor finds such an answer among those after the change.
-/

namespace OpnsensePlugin

open Effects Python

namespace VerifiedFirewallWriter

variable [Runtime]

/-! ## The monitor -/

/-- The answers of both nodes to `hasync/get` are objects, and one of them is a set of options. -/
def isCollapsedPair (here there : Json) : Bool :=
  here.isObj && there.isObj && !((selected here).isObj && (selected there).isObj)

def hasEndlessDemotion (reply : Reply) : Bool :=
  match fieldD (carpBlock (safeFields reply)) "demotion" (.int 0) with
  | .float (.infinity _) => true
  | _ => false

/-- All fields of the object in an answer are options. -/
def isCollapsedObject (resource : Resource) : Json → Bool
  | .obj out =>
      match field out resource.spec.key with
      | some (.obj fields) => !fields.isEmpty && !(selected (.obj fields)).isObj
      | _ => false
  | _ => false

/-- The object in an answer cannot be read, or what was read cannot be compared with the payload
or, where none is expected, hashed. -/
def isUndigestible (writer : VerifiedFirewallWriter) (expected : Option Json)
    (answer : Json) : Bool :=
  match detailOf writer.resource answer, expected with
  | .error _, _ => writer.resource = .aliases && isCollapsedObject writer.resource answer
  | .ok detail, some payload => !(selected detail).isObj || !payload.isObj
  | .ok detail, none => !detail.dumps.all isEncodable

/-- One step of the monitor, which remembers the last answer of the own node to `hasync/get` -/
def digest (writer : VerifiedFirewallWriter) (expected pending : Option Json) :
    Exchange Role → Option (Option Json)
  | ⟨.get role path _, reply⟩ =>
      if path = hasyncPath then
        match role, pending, reply with
        | .client, _, .ok data => some (some data)
        | .peer, some here, .ok there => if isCollapsedPair here there then none else some none
        | _, _, _ => some none
      else if path = vipStatusPath then
        if hasEndlessDemotion reply then none else some none
      else if (writer.detailPath []).isPrefixOf path then
        match reply with
        | .ok answer => if writer.isUndigestible expected answer then none else some none
        | .error _ => some none
      else some none
  | ⟨.append _, .error .encoding⟩ => none
  | _ => some none

variable {writer : VerifiedFirewallWriter} {expected : Option Json} {State : Type}
  {good : State → Prop} {uuid : Str} {role : Role}

/-- The monitor of a writer, which keeps a property of the state -/
abbrev Watched {α : Type} (writer : VerifiedFirewallWriter) (expected : Option Json)
    (good : State → Prop) (action : Py Role State α) : Prop :=
  Action.Monitored isHandled isOpnsense (writer.digest expected) none good action

/-! ## Paths -/

omit [Runtime] in
theorem searchPath_unread : writer.searchPath ≠ hasyncPath ∧ writer.searchPath ≠ vipStatusPath ∧
    (writer.detailPath []).isPrefixOf writer.searchPath = false := by
  unfold searchPath detailPath spec
  cases writer.resource with
  | portForward => decide
  | rules => decide
  | aliases => decide

omit [Runtime] in
theorem detailPath_read : writer.detailPath uuid ≠ hasyncPath ∧
    writer.detailPath uuid ≠ vipStatusPath ∧
      (writer.detailPath []).isPrefixOf (writer.detailPath uuid) = true := by
  have path : writer.detailPath uuid = writer.detailPath [] ++ uuid := by
    simp [detailPath]
  have leads : (writer.detailPath []).isPrefixOf (writer.detailPath uuid) = true := by
    rw [path]
    exact List.isPrefixOf_iff_prefix.mpr (List.prefix_append _ _)
  have apart : ∀ target : Str, (writer.detailPath []).isPrefixOf target = false →
      writer.detailPath uuid ≠ target := by
    rintro target other rfl
    rw [leads] at other
    cases other
  refine ⟨apart _ ?_, apart _ ?_, leads⟩
  · unfold detailPath spec
    cases writer.resource <;> decide
  · unfold detailPath spec
    cases writer.resource <;> decide

/-! ## Requests -/

section Requests

omit [Runtime] in
theorem received_contained {reply : Reply} : Action.Contained isOpnsense (received reply) := by
  rcases reply with (detail | detail | detail) | value
  · exact Action.contained_error rfl
  · exact Action.contained_error rfl
  · exact Action.contained_error rfl
  · exact Action.contained_ok

omit [Runtime] in
theorem raiseIf_contained {condition : Bool} {error : OpnsenseError} :
    Action.Contained isOpnsense (raiseIf condition (opnsenseError error)) := by
  intro failure failed
  rw [raiseIf_eq_error] at failed
  rw [failed.2]
  rfl

/-- A read of a node that is decoded with errors of the client only -/
theorem watched_clientGet {α : Type} {path : Str} {params : List (Str × Json)}
    {decode : Json → Except Exn α} (apart : path ≠ hasyncPath ∧ path ≠ vipStatusPath ∧
      (writer.detailPath []).isPrefixOf path = false)
    (contained : ∀ answer, Action.Contained isOpnsense (decode answer)) :
    writer.Watched expected good (do
      let out ← clientGet role path params
      Action.ofExcept (decode out) : Py Role State α) := by
  refine Action.monitored_bind ?_ fun out => Action.monitored_ofExcept (contained out)
  apply Action.monitored_decoded
  intro reply
  refine .inr ⟨?_, received_contained⟩
  simp [digest, apart.1, apart.2.1, apart.2.2]

theorem searchRows_contained {answer : Json} :
    Action.Contained isOpnsense (searchRows writer.resource answer) := by
  unfold searchRows
  split
  · split
    · split
      · exact Action.contained_error rfl
      · split
        · exact Action.contained_ok
        · refine Action.contained_bind ?_ fun total => ?_
          · unfold listedTotal
            split
            · split
              · exact Action.contained_ok
              · exact Action.contained_error rfl
            · split
              · exact Action.contained_error rfl
              · split
                · exact Action.contained_ok
                · exact Action.contained_error rfl
            · exact Action.contained_error rfl
          · exact Action.contained_bind raiseIf_contained fun _ => Action.contained_ok
    · exact Action.contained_error rfl
  · exact Action.contained_error rfl

theorem search_watched : writer.Watched expected good (writer.search role : Py Role State (List Row)) :=
  watched_clientGet searchPath_unread fun _ => searchRows_contained

theorem dnatUuids_contained {rows : List Row} : Action.Contained isOpnsense (dnatUuids rows) := by
  have named : ∀ (value : Json) (rest : Except Exn (List Str)),
      Action.Contained isOpnsense rest →
        Action.Contained isOpnsense (dnatUuids.addUuid value rest) := by
    intro value rest contained
    unfold dnatUuids.addUuid
    split
    · cases rest with
      | ok ids => exact Action.contained_ok
      | error error => exact Action.contained_error (contained error rfl)
    · exact Action.contained_error rfl
  induction rows with
  | nil => exact Action.contained_ok
  | cons row rest ih =>
      unfold dnatUuids
      dsimp only
      split
      · split
        · exact ih
        · exact named _ _ ih
      · exact named _ _ ih

theorem dnatIds_watched :
    writer.Watched expected good (writer.dnatIds role : Py Role State (List Str)) :=
  Action.monitored_bind search_watched fun _ => Action.monitored_ofExcept dnatUuids_contained

theorem requireSuccess_contained {operation : Str} {answer : Json} :
    Action.Contained isOpnsense (requireSuccess operation answer) := by
  cases answer with
  | obj response =>
      refine Action.contained_bind raiseIf_contained fun _ => ?_
      exact Action.contained_bind raiseIf_contained fun _ => Action.contained_ok
  | _ => exact Action.contained_error rfl

theorem acknowledged_watched {path operation : Str} {payload : Json} :
    writer.Watched expected good
      (acknowledged role path payload operation : Py Role State (List (Str × Json))) := by
  refine Action.monitored_bind ?_ fun _ => Action.monitored_ofExcept requireSuccess_contained
  apply Action.monitored_decoded
  intro reply
  exact .inr ⟨rfl, received_contained⟩

theorem apply_watched : writer.Watched expected good (writer.apply : Py Role State Unit) :=
  Action.monitored_bind acknowledged_watched fun _ => Action.monitored_pure

/-- A read of an object that is used at once -/
theorem get_watched {α : Type} {use : Json → Except Exn α}
    (splits : ∀ answer, Action.Splits isHandled isOpnsense (writer.isUndigestible expected answer)
      (detailOf writer.resource answer >>= use)) :
    writer.Watched expected good (do
      let detail ← writer.get uuid role
      Action.ofExcept (use detail) : Py Role State α) := by
  unfold Watched get clientGet
  rw [Action.monitored_assoc, Action.monitored_assoc]
  simp only [Action.ofExcept_bind]
  have read := @detailPath_read writer uuid
  refine @Action.monitored_splits _ _ _ _ _ _ _ _ _ _ _ _ _ (fun reply : Reply =>
    reply.toOption.any (writer.isUndigestible expected)) ?_ ?_
  · intro reply
    cases reply with
    | ok answer =>
        simp [digest, Except.toOption, read.1, read.2.1, read.2.2]
        rfl
    | error failure => simp [digest, Except.toOption, read.1, read.2.1, read.2.2]
  · intro reply
    cases reply with
    | ok answer => exact splits answer
    | error failure =>
        refine Action.splits_of_contained ?_
        rcases @received_error failure with ⟨raised, same, opnsense, _⟩
        rw [same]
        exact Action.contained_error opnsense

theorem detailOf_splits {resource : Resource} {answer : Json} {error : Exn}
    (failed : detailOf resource answer = .error error) : Action.Splits isHandled isOpnsense
      (resource = .aliases && isCollapsedObject resource answer)
      (.error error : Except Exn Json) := by
  have refused : error = readbackError → isCollapsedObject resource answer = false →
      Action.Splits isHandled isOpnsense
        (resource = .aliases && isCollapsedObject resource answer)
        (.error error : Except Exn Json) := by
    rintro rfl whole
    rw [whole, Bool.and_false]
    exact Action.splits_of_contained (Action.contained_error rfl)
  unfold detailOf at failed
  split at failed
  · rename_i out
    split at failed
    · rename_i found
      cases failed
      exact refused rfl (by simp [isCollapsedObject, found])
    · rename_i fields filled found
      dsimp only at failed
      split at failed
      · rename_i isAlias
        split at failed
        · cases failed
        · rename_i collapsed
          cases failed
          have options : (selected (.obj fields)).isObj = false := by
            cases same : selected (.obj fields) with
            | obj others => exact absurd same (collapsed others)
            | _ => rfl
          have bad : (decide (resource = .aliases) &&
              isCollapsedObject resource (.obj out)) = true := by
            have nonempty : fields ≠ [] := by
              rintro rfl
              exact filled rfl
            subst isAlias
            simp [isCollapsedObject, found, options, nonempty]
          rw [bad]
          exact Action.splits_of_escapes (Action.escapes_error.mpr rfl)
      · cases failed
    · rename_i found
      cases failed
      refine refused rfl ?_
      dsimp only [isCollapsedObject]
      split
      · rename_i fields same
        exact absurd same (found fields)
      · rfl
  · rename_i other
    cases failed
    refine refused rfl ?_
    cases answer with
    | obj out => exact absurd rfl (other out)
    | _ => rfl

/-- The detail of an answer is read and compared, unless the monitor stops at the answer. -/
theorem matchesPayload_splits {payload answer : Json} :
    Action.Splits isHandled isOpnsense (writer.isUndigestible (some payload) answer)
      (detailOf writer.resource answer >>= fun detail => matchesPayload detail payload) := by
  unfold isUndigestible
  cases read : detailOf writer.resource answer with
  | error error =>
      change Action.Splits isHandled isOpnsense
        (writer.resource = .aliases && isCollapsedObject writer.resource answer)
        (.error error : Except Exn _)
      have splits := detailOf_splits read
      exact ⟨fun bad => Action.escapes_error.mpr (Action.escapes_error.mp (splits.1 bad)),
        fun good => Action.contained_error (splits.2 good error rfl)⟩
  | ok detail =>
      change Action.Splits isHandled isOpnsense (!(selected detail).isObj || !payload.isObj)
        (matchesPayload detail payload)
      unfold matchesPayload
      cases selected detail with
      | obj fields =>
          cases payload with
          | obj members => exact Action.splits_of_contained Action.contained_ok
          | _ => exact Action.splits_of_escapes (Action.escapes_error.mpr rfl)
      | _ => exact Action.splits_of_escapes (Action.escapes_error.mpr rfl)

theorem hashPayload_splits {answer : Json} :
    Action.Splits isHandled isOpnsense (writer.isUndigestible none answer)
      (detailOf writer.resource answer >>= hashPayload) := by
  unfold isUndigestible
  cases read : detailOf writer.resource answer with
  | error error =>
      change Action.Splits isHandled isOpnsense
        (writer.resource = .aliases && isCollapsedObject writer.resource answer)
        (.error error : Except Exn _)
      have splits := detailOf_splits read
      exact ⟨fun bad => Action.escapes_error.mpr (Action.escapes_error.mp (splits.1 bad)),
        fun good => Action.contained_error (splits.2 good error rfl)⟩
  | ok detail =>
      change Action.Splits isHandled isOpnsense (!detail.dumps.all isEncodable)
        (hashPayload detail)
      cases detail with
      | null => exact Action.splits_of_contained Action.contained_ok
      | _ => 
        dsimp only [hashPayload]
        split
        · rename_i encodable
          rw [encodable]
          exact Action.splits_of_contained Action.contained_ok
        · rename_i surrogates
          rw [Bool.not_eq_true] at surrogates
          rw [surrogates]
          exact Action.splits_of_escapes (Action.escapes_error.mpr rfl)

theorem verify_watched {expected : Option Json} : writer.Watched expected good
    (writer.verify uuid expected role : Py Role State Bool) := by
  cases expected with
  | none => exact Action.monitored_bind search_watched fun _ => Action.monitored_pure
  | some payload =>
      exact get_watched fun _ => matchesPayload_splits

/-- Absence is read off a listing, which every monitor can digest. -/
theorem verify_absence_watched : writer.Watched expected good
    (writer.verify uuid none role : Py Role State Bool) :=
  Action.monitored_bind search_watched fun _ => Action.monitored_pure

end Requests

/-! ## The preflight -/

section Preflight

omit [Runtime] in
theorem addressesOf_contained {answer : Json} :
    Action.Contained isOpnsense (addressesOf answer) := by
  have family : ∀ (interface : List (Str × Json)) (name : Str),
      Action.Contained isOpnsense (familyAddresses interface name) := by
    intro interface name
    unfold familyAddresses
    split
    · exact Action.contained_ok
    · exact Action.contained_error rfl
  have single : ∀ interface, Action.Contained isOpnsense (interfaceAddresses interface) := by
    intro interface
    cases interface with
    | obj fields =>
        refine Action.contained_bind (family fields "ipv4") fun _ => ?_
        exact Action.contained_bind (family fields "ipv6") fun _ => Action.contained_ok
    | _ => exact Action.contained_ok
  have all : ∀ config : List (Str × Json), Action.Contained isOpnsense
      (config.mapM fun entry => interfaceAddresses entry.2) := by
    intro config
    induction config with
    | nil => exact Action.contained_ok
    | cons entry rest ih =>
        rw [List.mapM_cons]
        refine Action.contained_bind (single entry.2) fun _ => ?_
        exact Action.contained_bind ih fun _ => Action.contained_ok
  cases answer with
  | obj config => exact Action.contained_bind (all config) fun _ => Action.contained_ok
  | _ => exact Action.contained_error rfl

omit [Runtime] in
theorem interfacesPath_unread : interfacesPath ≠ hasyncPath ∧ interfacesPath ≠ vipStatusPath ∧
    (writer.detailPath []).isPrefixOf interfacesPath = false := by
  unfold detailPath spec
  cases writer.resource with
  | portForward => decide
  | rules => decide
  | aliases => decide

theorem isExclusive_watched {address : IpAddress} :
    writer.Watched expected good (isExclusive address : Py Role State Bool) := by
  have read : ∀ role, writer.Watched expected good
      (addresses role : Py Role State (List IpAddress)) :=
    fun role => watched_clientGet interfacesPath_unread fun _ => addressesOf_contained
  refine Action.monitored_bind (read .peer) fun peer => ?_
  split
  · exact Action.monitored_bind (read .client) fun _ => Action.monitored_pure
  · exact Action.monitored_pure

omit [Runtime] in
/-- The role of a node is found, or the error is one of the client. -/
theorem classifyRole_contained {enabled maintenance : Bool} {vhids : List CarpVhid} :
    Action.Contained isOpnsense (classifyRole enabled maintenance vhids) := by
  have primary : Action.Contained isOpnsense (primaryVhid vhids) := by
    unfold primaryVhid
    dsimp only
    split
    · exact Action.contained_error rfl
    · exact Action.contained_ok
  unfold classifyRole
  cases enabled with
  | false => exact Action.contained_ok
  | true =>
      cases maintenance with
      | true => exact Action.contained_ok
      | false =>
          refine Action.contained_bind primary fun found => ?_
          cases found with
          | none => exact Action.contained_ok
          | some vip => exact Action.contained_ok

theorem carpStatusOf_splits {reply : Reply} :
    Action.Splits isHandled isOpnsense (hasEndlessDemotion reply)
      (carpStatusOf (safeFields reply)) := by
  have demotion : Action.Splits isHandled isOpnsense (hasEndlessDemotion reply)
      (demotionOf (carpBlock (safeFields reply))) := by
    unfold demotionOf hasEndlessDemotion
    cases fieldD (carpBlock (safeFields reply)) "demotion" (.int 0) with
    | float value =>
        cases value with
        | infinity => exact Action.splits_of_escapes (Action.escapes_error.mpr rfl)
        | nan => exact Action.splits_of_contained Action.contained_ok
        | finite => exact Action.splits_of_contained Action.contained_ok
    | str text =>
        refine Action.splits_of_contained ?_
        cases read : parseInt 10 text with
        | none => simp [Json.toInt, read, Raised.isValueOrType, Action.contained_ok]
        | some number => simp [Json.toInt, read, Action.contained_ok]
    | _ => exact Action.splits_of_contained Action.contained_ok
  refine Action.splits_bind demotion fun _ => ?_
  exact Action.contained_bind classifyRole_contained fun _ => Action.contained_ok

omit [Runtime] in
theorem vipStatusPath_read : vipStatusPath ≠ hasyncPath := by
  decide

theorem collectCarpStatus_watched :
    writer.Watched expected good (collectCarpStatus role : Py Role State CarpStatus) := by
  refine Action.monitored_splits ?_ fun _ => carpStatusOf_splits
  intro reply
  simp [digest, vipStatusPath_read]

omit [Runtime] in
theorem planOf_contained {target : Str} {sections : List Str} {left right : CarpStatus} :
    Action.Contained isOpnsense (planOf target sections left right) := by
  have carp : ∀ status required, Action.Contained isOpnsense (carpIdentities status required) :=
    fun status required => Action.contained_bind raiseIf_contained fun _ => Action.contained_ok
  refine Action.contained_bind (carp left "MASTER") fun _ => ?_
  refine Action.contained_bind (carp right "BACKUP") fun _ => ?_
  exact Action.contained_bind raiseIf_contained fun _ => Action.contained_ok

/-- An answer that is a set of options has no attribute `get`. -/
theorem hasyncPair_splits {here there : Json} :
    Action.Splits isHandled isOpnsense (isCollapsedPair here there) (hasyncPair here there) := by
  unfold hasyncPair isCollapsedPair hasyncOf
  cases objects : here.isObj && there.isObj with
  | false =>
      have refused : (!here.isObj || !there.isObj) = true := by
        rw [← Bool.not_and, objects]
        rfl
      rw [refused]
      exact Action.splits_of_contained (Action.contained_error rfl)
  | true =>
      have kept : (!here.isObj || !there.isObj) = false := by
        rw [← Bool.not_and, objects]
        rfl
      rw [kept]
      cases selected here with
      | obj own =>
          cases selected there with
          | obj other =>
              refine Action.splits_of_contained ?_
              simp only [raiseIf, Bool.false_eq_true, if_false, bind, Except.bind, Json.getD]
              split
              · split
                · exact Action.contained_ok
                · exact Action.contained_error rfl
              · exact Action.contained_error rfl
          | _ => exact Action.splits_of_escapes (Action.escapes_error.mpr rfl)
      | _ => exact Action.splits_of_escapes (Action.escapes_error.mpr rfl)

theorem syncScope_splits {resource : Resource} {here there : Json} :
    Action.Splits isHandled isOpnsense (isCollapsedPair here there)
      (syncScope resource here there) := by
  refine Action.splits_bind hasyncPair_splits fun _ => ?_
  refine Action.contained_bind raiseIf_contained fun _ => ?_
  refine Action.contained_bind raiseIf_contained fun _ => ?_
  refine Action.contained_bind ?_ fun _ => Action.contained_ok
  unfold checkedTarget
  split
  · exact Action.contained_ok
  · exact Action.contained_error rfl

theorem xmlrpcPreflight_watched :
    writer.Watched expected good (writer.xmlrpcPreflight : Py Role State SyncPlan) := by
  have rest : ∀ scope : Str × List Str × IpAddress, writer.Watched expected good (do
      let exclusive ← isExclusive scope.2.2
      Action.raiseIf (!exclusive)
        (unsafeSync "XMLRPC target is not an exclusive address of the configured peer")
      let left ← collectCarpStatus .client
      let right ← collectCarpStatus .peer
      Action.ofExcept (planOf scope.1 scope.2.1 left right) : Py Role State SyncPlan) := by
    intro scope
    refine Action.monitored_bind isExclusive_watched fun _ => ?_
    refine Action.monitored_bind (Action.monitored_raiseIf rfl) fun _ => ?_
    refine Action.monitored_bind collectCarpStatus_watched fun _ => ?_
    refine Action.monitored_bind collectCarpStatus_watched fun _ => ?_
    exact Action.monitored_ofExcept planOf_contained
  intro before trace outcome after run holds
  rw [xmlrpcPreflight, clientGet, Action.run_bind_decoded] at run
  rcases run with ⟨reply, tail, rfl, ⟨here, answered, run⟩ | ⟨error, failed, rfl, rfl, rfl⟩⟩
  rotate_left
  · refine ⟨holds, Action.agrees_singleton (.inr ⟨?_, ?_⟩)⟩
    · rcases reply with failure | answer
      · simp [digest]
      · cases failed
    · exact Action.contained_error (received_contained error failed)
  rw [received_eq_ok] at answered
  subst answered
  rw [clientGet, Action.run_bind_decoded] at run
  rcases run with ⟨reply, tail, rfl, ⟨there, answered, run⟩ | ⟨error, failed, rfl, rfl, rfl⟩⟩
  rotate_left
  · refine ⟨holds, .inr ⟨?_, ?_⟩⟩
    · rcases reply with failure | answer
      · simp [digest]
      · cases failed
    · exact Action.contained_error (received_contained error failed)
  rw [received_eq_ok] at answered
  subst answered
  have begun : ∀ tail : Trace Role, List.foldlM (writer.digest expected) none
      (⟨.get .client hasyncPath [], .ok here⟩ :: ⟨.get .peer hasyncPath [], .ok there⟩ :: tail) =
        if isCollapsedPair here there then none
        else List.foldlM (writer.digest expected) none tail := by
    intro tail
    cases collapsed : isCollapsedPair here there with
    | true => simp [digest, collapsed]
    | false => simp [digest, collapsed]
  have splits := @syncScope_splits _ writer.resource here there
  rw [Action.run_bind_ofExcept] at run
  rcases run with ⟨scope, agreed, run⟩ | ⟨error, failed, rfl, rfl, rfl⟩
  · rcases rest scope before tail outcome after run holds with ⟨kept, agrees⟩
    refine ⟨kept, ?_⟩
    rw [Action.Agrees, begun]
    cases collapsed : isCollapsedPair here there with
    | true => exact absurd (agreed ▸ splits.1 collapsed) Action.not_escapes_ok
    | false => exact agrees
  · refine ⟨holds, ?_⟩
    rw [Action.Agrees, begun]
    rw [failed] at splits
    cases collapsed : isCollapsedPair here there with
    | true => exact .inl ⟨rfl, Action.escapes_error.mpr (Action.escapes_error.mp (splits.1 collapsed))⟩
    | false => exact .inr ⟨rfl, Action.contained_error (splits.2 collapsed error rfl)⟩

theorem syncPreflight_watched :
    writer.Watched expected good (writer.syncPreflight : Py Role State (Option SyncPlan)) := by
  unfold syncPreflight
  split
  · exact Action.monitored_pure
  · exact Action.monitored_bind xmlrpcPreflight_watched fun _ => Action.monitored_pure

end Preflight

end VerifiedFirewallWriter

end OpnsensePlugin
