import OpnsensePlugin.Management.Digests

/-!
# What the hash of a record is a hash of

A record is to hold the hash of the canonical text of the body that was sent.
The verified writer and the administration service keep to it. A change of a
revocation list never does, since it wraps what it hashed, and an operation does
so if it takes no value.
-/

namespace OpnsensePlugin

open Effects Python Management

/-! ## The four ways of writing -/

/-- A call of one of the four ways of writing -/
inductive AuditedCall
  | firewall (writer : VerifiedFirewallWriter) (action : WriteAction) (payload : List (Str × Json))
      (uuid revision : Str)
  | management (service : ManagementService) (spec : Spec) (body : Json)
  | crl (service : CrlService) (body : Json)
  | operate (client : Host) (actor : Str) (operation values : Json)

namespace AuditedCall

variable [Runtime]

/-- The trace of a call that creates or updates, and succeeds -/
def Succeeds : AuditedCall → Trace Role → Prop
  | firewall writer action payload uuid revision, trace => action ≠ .delete ∧
      ∃ before result after, (writer.execute action (.obj payload) uuid revision).Run before trace
        (.ok result) after ∧ result.ok = true
  | management service spec body, trace =>
      ∃ result, (service.mutate spec body).Run () trace (.ok result) ()
  | crl service body, trace => ∃ request caref, service.accept body = .ok request ∧
      request.action ≠ .delete ∧ (service.mutate body).Run () trace (.ok caref) ()
  | operate client actor operation values, trace => ∃ spec path payload result,
      planOperation operation values = .ok (spec, path, payload) ∧ spec.mutation = true ∧
        (executeOperation client actor operation values).Run () trace (.ok result) ()

/-- The call is of a way of writing that hashes the body, or an operation without values. -/
def SendsWhatItHashes : AuditedCall → Prop
  | firewall _ _ _ _ _ | management _ _ _ => True
  | crl _ _ => False
  | operate _ _ operation _ =>
      ∃ spec, operations.find? (fun spec => operation.isText spec.id) = some spec ∧ spec.fields = []

end AuditedCall

/-! ## Canonical texts that differ -/

section Texts

variable [Runtime] {key : Str} {value : Json} {fields : List (Str × Json)}

theorem dumps_ne_wrapped : value.dumps ≠ (Json.obj [(key, value)]).dumps := by
  intro same
  have wrapped : (Json.obj [(key, value)]).dumps ++ [] =
      code '\x7b' :: (membersText [(key, value.dumps)] ++ []) := dumps_obj_append
  rw [List.append_nil, List.append_nil, ← same] at wrapped
  have longer := congrArg List.length wrapped
  simp only [membersText, List.length_cons, List.length_append] at longer
  omega

theorem mem_of_dumps_eq (same : (Json.obj fields).dumps = (Json.obj [(key, value)]).dumps) :
    key ∈ fields.map (·.1) := by
  have texts : (Json.obj fields).dumps ++ [] = (Json.obj [(key, value)]).dumps ++ [] := by rw [same]
  rw [dumps_obj_append, dumps_obj_append, List.cons.injEq, List.append_nil, List.append_nil] at texts
  have members := List.perm_insertionSort (fun a b : Str × Str => strLe a.1 b.1 = true)
    (dumpsFields fields)
  have first : membersText ((dumpsFields fields).insertionSort fun a b => strLe a.1 b.1 = true) =
      membersText [(key, value.dumps)] := texts.2
  cases sorted : (dumpsFields fields).insertionSort fun a b => strLe a.1 b.1 = true with
  | nil =>
      rw [sorted] at first
      cases (List.cons.inj first).1
  | cons entry rest =>
      rw [sorted] at first members
      have name := (quoted_append_inj first).1
      rw [← names_dumpsFields, ← name]
      exact List.mem_map.mpr ⟨entry, members.mem_iff.mp List.mem_cons_self, rfl⟩

theorem eq_nil_of_dumps_eq (same : (Json.obj fields).dumps = (Json.obj []).dumps) : fields = [] := by
  cases fields with
  | nil => rfl
  | cons entry rest =>
      exfalso
      have texts : (Json.obj (entry :: rest)).dumps ++ [] = (Json.obj []).dumps ++ [] := by rw [same]
      rw [dumps_obj_append, dumps_obj_append, List.cons.injEq, List.append_nil,
        List.append_nil] at texts
      have members := List.perm_insertionSort (fun a b : Str × Str => strLe a.1 b.1 = true)
        (dumpsFields (entry :: rest))
      cases sorted : (dumpsFields (entry :: rest)).insertionSort
          fun a b => strLe a.1 b.1 = true with
      | nil =>
          rw [sorted] at members
          exact absurd members.symm.eq_nil (by simp [dumpsFields])
      | cons first others =>
          rw [sorted] at texts
          cases (List.cons.inj texts.2).1

end Texts

/-! ## Operations that take values -/

namespace Management

variable [Runtime] {spec : OperationSpec} {values : Json} {checked payload : List (Str × Json)}
  {path : Str}

/-- The value goes into the path, or the values are wrapped under another name. -/
def sendsOther (spec : OperationSpec) : Bool :=
  match spec.segment, spec.bodyKey with
  | some name, none => decide (spec.fields.map OperationField.name = [name]) &&
      spec.fields.all fun item => item.required && isBlank item.default
  | none, some key =>
      match parts key with
      | part :: _ => decide (part ∉ spec.fields.map OperationField.name)
      | [] => false
  | _, _ => false

omit [Runtime] in
theorem mutations_sendOther : ∀ spec ∈ operations, spec.mutation = true → spec.method = .post ∧
    (spec.fields.isEmpty = true ∧ spec.segment = none ∧ spec.bodyKey = none ∨
      sendsOther spec = true ∧ spec.fields.isEmpty = false) := by
  decide +kernel

theorem operationValues_none (nothing : spec.fields = [])
    (valued : operationValues spec values = .ok checked) : values = .obj [] ∧ checked = [] := by
  rcases operationValues_known valued with ⟨fields, rfl, known⟩
  rw [nothing] at known
  have empty : fields = [] := by
    cases fields with
    | nil => rfl
    | cons entry rest => exact absurd (known entry.1 (by simp)) (by simp)
  subst empty
  refine ⟨rfl, ?_⟩
  simpa [operationValues, nothing, raiseIf, bind, Except.bind, pure, Except.pure] using valued.symm

/-- The only value of an operation, which is required -/
theorem operationValues_single {item : OperationField} (single : spec.fields = [item])
    (required : item.required = true) (blank : isBlank item.default = true)
    (valued : operationValues spec values = .ok checked) :
    values ≠ .obj [] ∧ ∃ value, checked = [(item.name, value)] := by
  cases values with
  | obj fields =>
      simp only [operationValues, single, List.foldlM_cons, List.foldlM_nil, bind_eq_ok,
        raiseIf_eq_ok, required] at valued
      rcases valued with ⟨_, _, result, stored, same⟩
      split at stored
      · simp [raiseIf, bind, Except.bind] at stored
      · rename_i given
        simp only [bind_eq_ok, pure_eq_ok] at stored same
        rcases stored with ⟨value, _, rfl⟩
        rw [same]
        refine ⟨?_, value, rfl⟩
        intro empty
        cases empty
        exact given blank
  | _ => cases valued

theorem sendsOther_ne {kept : List (Str × Json)} (other : sendsOther spec = true)
    (valued : operationValues spec values = .ok checked)
    (located : operationTarget spec checked = .ok (path, kept)) :
    values.dumps ≠ (Json.obj (operationBody spec kept)).dumps := by
  rcases operationValues_known valued with ⟨fields, rfl, known⟩
  unfold sendsOther at other
  split at other
  · rename_i name segment noKey
    rw [Bool.and_eq_true, decide_eq_true_eq] at other
    rcases other with ⟨names, required⟩
    rcases List.map_eq_singleton_iff.mp names with ⟨item, single, rfl⟩
    rw [single, List.all_cons, List.all_nil, Bool.and_true, Bool.and_eq_true] at required
    rcases operationValues_single single required.1 required.2 valued with ⟨given, value, rfl⟩
    have emptied : kept = [] := by
      have present : field [(item.name, value)] item.name = some value := by simp [field]
      simp only [operationTarget, segment, present] at located
      cases value with
      | str text =>
          simp only [bind_eq_ok, pure_eq_ok, Prod.mk.injEq] at located
          rcases located with ⟨_, _, _, rfl⟩
          simp
      | _ => cases located
    rw [operationBody, noKey, emptied]
    intro same
    exact given (congrArg Json.obj (eq_nil_of_dumps_eq same))
  · rename_i key _ keyed
    split at other
    · rename_i part others split
      have unnamed : part ∉ spec.fields.map OperationField.name := by simpa using other
      simp only [operationBody, keyed, split, List.foldr_cons]
      intro same
      exact unnamed (known part (mem_of_dumps_eq same))
    · cases other
  · cases other

/-- The hash of the values of an operation is the hash of its body if it takes none. -/
theorem planned_texts {operation : Json} (mutation : spec.mutation = true)
    (planned : planOperation operation values = .ok (spec, path, payload)) :
    spec.method = .post ∧ operations.find? (fun spec => operation.isText spec.id) = some spec ∧
      (∃ fields, values = .obj fields) ∧
      (values.dumps = (Json.obj payload).dumps ↔ spec.fields = []) := by
  unfold planOperation at planned
  split at planned
  · cases planned
  rename_i found named
  simp only [bind_eq_ok, pure_eq_ok, Prod.mk.injEq] at planned
  rcases planned with ⟨checked, valued, ⟨target, kept⟩, located, same, rfl, rfl⟩
  subst same
  rcases mutations_sendOther spec (List.mem_of_find?_eq_some named) mutation with ⟨post, shape⟩
  rcases operationValues_known valued with ⟨fields, rfl, known⟩
  refine ⟨post, named, ⟨fields, rfl⟩, ?_⟩
  rcases shape with ⟨nothing, noSegment, noKey⟩ | ⟨other, nonempty⟩
  · have none : spec.fields = [] := List.isEmpty_iff.mp nothing
    rcases operationValues_none none valued with ⟨same, rfl⟩
    rw [operationTarget, noSegment] at located
    cases located
    rw [operationBody, noKey, same]
    exact ⟨fun _ => none, fun _ => rfl⟩
  · have some : spec.fields ≠ [] := by simpa using nonempty
    refine ⟨fun same => ?_, fun none => absurd none some⟩
    exfalso
    exact absurd same (sendsOther_ne other valued located)

end Management

/-! ## All four ways -/

namespace CrlService

variable [Runtime] {service : CrlService} {trace : Trace Role}

theorem mutate_documents {body : Json} {request : CrlRequest} {caref : Str}
    (accepted : service.accept body = .ok request) (keeps : request.action ≠ .delete)
    (run : (service.mutate body).Run () trace (.ok caref) ()) :
    ∃ payload, Documents (.obj [("crl", .obj payload)])
      (Runtime.sha256 (Json.obj payload).dumps) trace := by
  rw [mutate, accepted, Action.run_bind_ofExcept] at run
  rcases run with ⟨_, same, run⟩ | ⟨_, impossible, _⟩
  rotate_left
  · cases impossible
  cases same
  rw [Action.run_bind_ok] at run
  rcases run with ⟨front, ⟨value, last⟩, _, back, rfl, changing, run⟩
  rw [Action.run_pure] at run
  rcases run with ⟨rfl, _, _⟩
  rw [Action.run_withState] at changing
  rcases changing with ⟨changed, final, changing, _, same⟩
  cases changed with
  | error error => cases same
  | ok value =>
      rw [List.append_nil]
      exact runChange_documents keeps changing

end CrlService

namespace AuditedCall

variable [Runtime] {call : AuditedCall} {trace : Trace Role}

/-- The value that the call hashes before it sends the body -/
def Hashes : AuditedCall → Json → Json → Prop
  | firewall _ _ _ _ _, body, value | management _ _ _, body, value => value = body
  | crl _ _, body, value => body = .obj [("crl", value)]
  | operate _ _ _ values, _, value => value = values

/-- The hash tells the text that was hashed from the text that was sent. -/
def Distinguishes (call : AuditedCall) (trace : Trace Role) : Prop :=
  ∀ post ∈ posts trace, ∀ value, call.Hashes post.body value →
    Runtime.sha256 value.dumps = Runtime.sha256 post.body.dumps → value.dumps = post.body.dumps

/-- Records of a call that sends what it hashes have the hash of what was sent, and those of
other calls do not. -/
theorem hashesBody_iff (succeeds : call.Succeeds trace) (distinct : call.Distinguishes trace) :
    HashesBody trace ↔ call.SendsWhatItHashes := by
  cases call with
  | firewall writer action payload uuid revision =>
      rcases succeeds with ⟨keeps, before, result, after, run, ok⟩
      rcases VerifiedFirewallWriter.execute_documents keeps run ok with ⟨hash, hashed, documents⟩
      have sent : VerifiedFirewallWriter.bodyOf (.obj payload) = .obj payload := sentBody_obj
      rw [documents.hashesDocument_iff, sent]
      exact ⟨fun _ => trivial, fun _ => hashPayload_obj hashed⟩
  | management service spec body =>
      rcases succeeds with ⟨result, run⟩
      rcases ManagementService.mutate_documents run with ⟨payload, documents⟩
      rw [documents.hashesDocument_iff]
      exact ⟨fun _ => trivial, fun _ => rfl⟩
  | crl service body =>
      rcases succeeds with ⟨request, caref, accepted, keeps, run⟩
      rcases CrlService.mutate_documents accepted keeps run with ⟨payload, documents⟩
      rcases documents.sent with ⟨post, later, sent, body⟩
      rw [documents.hashesDocument_iff]
      refine ⟨fun same => ?_, fun impossible => impossible.elim⟩
      have texts := distinct post (by simp [sent]) (.obj payload) body (by rw [body]; exact same)
      rw [body] at texts
      exact dumps_ne_wrapped texts
  | operate client actor operation values =>
      rcases succeeds with ⟨spec, path, payload, result, planned, mutation, run⟩
      rcases planned_texts mutation planned with ⟨method, named, ⟨fields, rfl⟩, texts⟩
      rcases executeOperation_documents planned method run with ⟨hash, hashed, documents⟩
      rcases documents.sent with ⟨post, later, sent, body⟩
      rw [documents.hashesDocument_iff, hashPayload_obj hashed]
      constructor
      · intro same
        have told := distinct post (by simp [sent]) (.obj fields) rfl (by rw [body]; exact same)
        rw [body] at told
        exact ⟨spec, named, texts.mp told⟩
      · rintro ⟨other, found, nothing⟩
        rw [named, Option.some.injEq] at found
        rw [texts.mpr (found ▸ nothing)]

end AuditedCall

/-! ### The creation of an alias and the start of a ping job -/

namespace AuditDemo

open AuditedCall

/-- A node that acknowledges every POST -/
def acknowledges : (request : Request Role) → Answer request
  | .get _ _ _ => .error (.auth [])
  | .post _ _ _ => .ok (.obj [("status", .str "ok")])
  | .append _ => .ok ()
  | .clock => ⟨[], 0⟩
  | .lockFor _ _ => 0
  | .acquireGuard _ | .releaseGuard _ | .acquire _ | .release _ => ()

def startPing : Json := .obj [("jobid", .str "11111111-1111-4111-8111-111111111111")]

/-- The replay of an operation against the node -/
def replayed (operation : Str) (values : Json) :=
  (@executeOperation Runtime.ascii labHost "qa" (.str operation) values ()).replay
    (fun _ => acknowledges) []

theorem replayed_ok {operation : Str} {values : Json}
    (ok : (replayed operation values).2.1.isOk = true) : ∃ trace result,
      (replayed operation values).1 = trace ∧
      (@executeOperation Runtime.ascii labHost "qa" (.str operation) values).Run () trace
        (.ok result) () := by
  rcases Program.replay_yields (fun _ => acknowledges)
    (@executeOperation Runtime.ascii labHost "qa" (.str operation) values ()) []
    with ⟨trace, recorded, run⟩
  rw [replayed] at ok ⊢
  generalize ((@executeOperation Runtime.ascii labHost "qa" (.str operation) values
    ()).replay (fun _ => acknowledges) []).2 = last at ok run
  rcases last with ⟨error | result, _⟩
  · cases ok
  · exact ⟨trace, result, recorded, run⟩

def aliasFields : List (Str × Json) := [("alias", .obj [("name", .str "blocked")])]

/-- The fields of an alias are posted and hashed. -/
theorem alias_create_hashed : ∃ trace,
    (posts trace).head?.map Post.body = some (.obj aliasFields) ∧
      (@HashesBody Role Runtime.ascii trace ↔ @SendsWhatItHashes
        (.firewall VerifiedFirewallWriter.aliasWriter .create aliasFields [] [])) := by
  rcases Program.replay_yields (fun _ => VerifiedFirewallWriter.acknowledges)
    (@VerifiedFirewallWriter.execute Runtime.ascii VerifiedFirewallWriter.aliasWriter .create
      (.obj aliasFields) [] [] VerifiedFirewallWriter.idle) [] with ⟨trace, recorded, run⟩
  have success : ((@VerifiedFirewallWriter.execute Runtime.ascii VerifiedFirewallWriter.aliasWriter
      .create (.obj aliasFields) [] [] VerifiedFirewallWriter.idle).replay
      (fun _ => VerifiedFirewallWriter.acknowledges) []).2.1.toOption.any (fun result => result.ok) =
        true := by
    decide +kernel
  generalize ((@VerifiedFirewallWriter.execute Runtime.ascii VerifiedFirewallWriter.aliasWriter
      .create (.obj aliasFields) [] [] VerifiedFirewallWriter.idle).replay
      (fun _ => VerifiedFirewallWriter.acknowledges) []).2 = last at run success
  rcases last with ⟨error | result, after⟩
  · cases success
  have ok : result.ok = true := by simpa [Except.toOption] using success
  rw [List.nil_append] at recorded
  refine ⟨trace, by rw [← recorded]; rfl, @hashesBody_iff Runtime.ascii _ trace ?_ ?_⟩
  · exact ⟨by decide, _, result, after, run, ok⟩
  · intro post member value same _
    have body : value = post.body := same
    rw [body]

theorem ping_start_unhashed : ∃ trace,
    @Succeeds Runtime.ascii (.operate labHost "qa" (.str "ping_start") startPing) trace ∧
      ¬ @HashesBody Role Runtime.ascii trace := by
  rcases @replayed_ok "ping_start" startPing (by decide +kernel) with
    ⟨trace, result, recorded, run⟩
  have bodies : (posts trace).map Post.body = [.obj []] := by
    rw [← recorded]
    rfl
  have hashes : (appends trace).map (fun record => record.1.payloadSha256) =
      List.replicate 2 (Runtime.ascii.sha256 (@Json.dumps Runtime.ascii startPing)) := by
    rw [← recorded]
    decide +kernel
  have apart : Runtime.ascii.sha256 (@Json.dumps Runtime.ascii startPing) ≠
      Runtime.ascii.sha256 (@Json.dumps Runtime.ascii (.obj [])) := by
    decide +kernel
  refine ⟨trace, ⟨_, _, _, result, rfl, rfl, run⟩, ?_⟩
  rintro ⟨post, later, sent, hashed⟩
  rw [sent, List.map_cons, List.cons.injEq] at bodies
  rw [bodies.1] at hashed
  cases records : appends trace with
  | nil =>
      rw [records] at hashes
      cases hashes
  | cons record rest =>
      rw [records, List.map_cons, List.replicate_succ, List.cons.injEq] at hashes
      apply apart
      rw [← hashes.1]
      exact hashed record (by simp [records])

end AuditDemo

end OpnsensePlugin
