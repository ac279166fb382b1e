import OpnsensePlugin.Writers.LegacyRuns

/-!
# Audit evidence of the legacy writers

A legacy writer appends its audit record last. Whatever raises before that
leaves a live change of the firewall without a record: an answer that is no
object, a verification that cannot read or hash a list, and text that UTF-8
cannot encode in the payload or in the record itself.
-/

namespace OpnsensePlugin

open Effects Python

/-- UTF-8 can encode the text. -/
def Encodable (text : Str) : Prop := text.all isEncodable = true

/-- The texts of an entry that are not produced by the clock or the hash, which are ASCII. -/
def AuditEntry.texts (entry : AuditEntry) : List Str :=
  [entry.user, entry.action, entry.target, entry.host, entry.result, entry.detail]

/-- The audit storage works: it refuses an entry exactly if it cannot be encoded. -/
def StorageWorks (trace : Trace Party) : Prop :=
  ∀ (entry : AuditEntry) (answer : Except AppendFailure Unit),
    (⟨.append entry, answer⟩ : Exchange Party) ∈ trace →
      ((∀ text ∈ entry.texts, Encodable text) → answer = .ok ()) ∧
        ((¬ ∀ text ∈ entry.texts, Encodable text) → answer = .error .encoding)

/-- One record of the action was appended. -/
def Evidenced (action : Str) (context : LegacyContext) (trace : Trace Party) : Prop :=
  ∃ entry, storedEntries trace = [entry] ∧ entry.action = action ∧
    entry.user = context.actor ∧ entry.host = context.hostName

theorem StorageWorks.part {front back : Trace Party} (storage : StorageWorks (front ++ back)) :
    StorageWorks front ∧ StorageWorks back :=
  ⟨fun entry answer member => storage entry answer (List.mem_append_left back member),
    fun entry answer member => storage entry answer (List.mem_append_right front member)⟩

/-! ## Records -/

section Records

variable {context : LegacyContext} {action target result detail hash : Str} {durationMs : Int}
  {segment : Trace Party} {saved : Except Exn AuditEntry}

open LegacyWriter

theorem encodable_texts (fixed : Encodable action) (outcome : Encodable result) (hash : Str)
    (durationMs : Int) (now : Clock) :
    (∀ text ∈ (auditEntry context action target result detail hash durationMs now).texts,
      Encodable text) ↔
      Encodable context.actor ∧ Encodable context.hostName ∧ Encodable target ∧
        Encodable detail := by
  simp only [AuditEntry.texts, auditEntry, List.mem_cons, List.not_mem_nil, or_false,
    forall_eq_or_imp, forall_eq, fixed, outcome, true_and]
  constructor
  · rintro ⟨actor, target, host, detail⟩
    exact ⟨actor, host, target, detail⟩
  · rintro ⟨actor, host, target, detail⟩
    exact ⟨actor, target, host, detail⟩

/-- The record is stored exactly if its texts can be encoded. -/
theorem record_evidence (storage : StorageWorks segment)
    (record : RecordRun (auditEntry context action target result detail hash durationMs)
      segment saved) (fixed : Encodable action) (outcome : Encodable result) :
    Evidenced action context segment ↔
      Encodable context.actor ∧ Encodable context.hostName ∧ Encodable target ∧
        Encodable detail := by
  cases record with
  | stored now =>
      rw [← encodable_texts fixed outcome hash durationMs now]
      apply iff_of_true
      · exact ⟨_, rfl, rfl, rfl, rfl⟩
      · by_contra refused
        have answered := (storage _ (.ok ()) (by simp)).2 refused
        cases answered
  | lost now text =>
      rcases storage (auditEntry context action target result detail hash durationMs now)
        (.error (.os text)) (by simp) with ⟨accepts, refuses⟩
      by_cases encodable :
        ∀ text ∈ (auditEntry context action target result detail hash durationMs now).texts,
          Encodable text
      · cases accepts encodable
      · cases refuses encodable
  | unencodable now =>
      rw [← encodable_texts fixed outcome hash durationMs now]
      apply iff_of_false
      · rintro ⟨entry, same, _⟩
        cases same
      · intro encodable
        have answered := (storage _ (.error .encoding) (by simp)).1 encodable
        cases answered

end Records

/-- A call of a method that writes -/
inductive LegacyOperation [Runtime] (kind : LegacyKind)
  | create (input : kind.Input)
  | update (setName : Str) (available : kind.writer.setName = some setName) (uuid : Str)
      (input : kind.Input)
  | delete (uuid : Str)

namespace LegacyOperation

variable [Runtime] {kind : LegacyKind} {State : Type}

def call (operation : LegacyOperation kind) (context : LegacyContext) :
    Py Party State LegacyResult :=
  match operation with
  | create input => kind.writer.create context input
  | update setName _ uuid input => kind.writer.update context setName uuid input
  | delete uuid => kind.writer.delete context uuid

def action : LegacyOperation kind → Str
  | create _ => kind.writer.kind ++ ".create"
  | update _ _ _ _ => kind.writer.kind ++ ".update"
  | delete _ => kind.writer.kind ++ ".delete"

/-- The path of the mutating POST -/
def path : LegacyOperation kind → Str
  | create _ => kind.writer.path kind.writer.addName
  | update setName _ uuid _ => kind.writer.itemPath setName uuid
  | delete uuid => kind.writer.itemPath kind.writer.delName uuid

/-- The firewall answered the mutating POST without an error. -/
def Acknowledged (operation : LegacyOperation kind) (trace : Trace Party) : Prop :=
  ∃ post, (posts trace).head? = some post ∧ post.node = .client ∧ post.path = operation.path ∧
    ∃ value, post.reply = .ok value

/-- The texts that the record of a creation shows besides the actor and the host, and the payload
that it hashes -/
def createdTexts (input : kind.Input) (applied : Option Reply) (fields : List (Str × Json)) :
    List Str :=
  let uuid := fieldText fields "uuid"
  match applied with
  | none => [kind.writer.failedTarget input]
  | some (.error failure) => [kind.writer.failedTarget input, failure.detail]
  | some (.ok _) => [kind.writer.createdTarget uuid input, kind.writer.createdDetail uuid input,
      (kind.writer.toPayload input).dumps]

/-- The texts that the record shows besides the actor and the host, and the payload that it
hashes, given the answers to the POSTs of the call -/
def recordTexts (operation : LegacyOperation kind) (answers : List Reply) : List Str :=
  match operation, answers with
  | create input, .ok (.obj fields) :: later => createdTexts input later.head? fields
  | update _ _ uuid _, _ :: .error failure :: _ | delete uuid, _ :: .error failure :: _ =>
      [uuid, failure.detail]
  | update _ _ uuid input, _ => [uuid, kind.writer.updatedDetail input,
      (kind.writer.toPayload input).dumps]
  | delete uuid, _ => [uuid]
  | create _, _ => []

/-- An add is answered with an object, the verification can digest what it reads, and the texts
of the record and of its payload can be encoded. -/
structure Recordable (operation : LegacyOperation kind) (context : LegacyContext)
    (trace : Trace Party) : Prop where
  object : ∀ input, operation = create input → ∀ post ∈ (posts trace).head?, ∀ value,
    post.reply = .ok value → value.isObj = true
  digestible : ∀ event ∈ trace, HaVerifier.Digestible kind.writer.searchPath event
  actor : Encodable context.actor
  host : Encodable context.hostName
  texts : ∀ text ∈ operation.recordTexts ((posts trace).map Post.reply), Encodable text

end LegacyOperation

/-! ## Runs -/

section Runs

variable [Runtime] {Input : Type} {writer : LegacyWriter Input} {context : LegacyContext}
  {action target detail uuid path : Str} {payload : Option Json} {durationMs : Int}
  {trace segment : Trace Party} {outcome : Except Exn LegacyResult}

open LegacyWriter

theorem hashPayload_eq_ok {payload : Json} :
    (∃ hash, hashPayload payload = .ok hash) ↔ Encodable payload.dumps := by
  unfold hashPayload
  split
  · exact iff_of_true ⟨_, rfl⟩ rfl
  · split <;> simp_all [Encodable]

theorem LegacyWriter.VerificationRun.unrecorded {sync : Except Exn (Option HaVerifier.SyncResult)}
    (verification : VerificationRun writer.searchPath segment sync) :
    storedEntries segment = [] := by
  apply storedEntries_eq_nil
  intro event member entry same
  have request := verification.requests event member
  rw [same] at request
  exact request

theorem digestible_of_record {searchPath : Str} {entry : Clock → AuditEntry}
    {saved : Except Exn AuditEntry} (record : RecordRun entry segment saved) :
    ∀ event ∈ segment, HaVerifier.Digestible searchPath event := by
  cases record <;> simp [HaVerifier.Digestible]

/-- After the timed block, the operation is recorded exactly if nothing raises. -/
theorem finish_evidence (storage : StorageWorks trace) (fixed : Encodable action)
    (run : FinishRun writer context action target detail uuid payload durationMs trace outcome) :
    Evidenced action context trace ↔
      (∀ event ∈ trace, HaVerifier.Digestible writer.searchPath event) ∧
        Encodable (payload.getD .null).dumps ∧ Encodable context.actor ∧
        Encodable context.hostName ∧ Encodable target ∧ Encodable detail := by
  cases run with
  | unverified verification =>
      apply iff_of_false
      · rintro ⟨entry, same, _⟩
        rw [verification.unrecorded] at same
        cases same
      · rintro ⟨digestible, _⟩
        rcases verification.returns.mpr digestible with ⟨_, same⟩
        cases same
  | unhashed verification hashed =>
      apply iff_of_false
      · rintro ⟨entry, same, _⟩
        rw [verification.unrecorded] at same
        cases same
      · rintro ⟨_, encodable, _⟩
        rcases hashPayload_eq_ok.mpr encodable with ⟨_, same⟩
        cases hashed.symm.trans same
  | @recorded segment back sync hash saved verification hashed record =>
      have stored : Evidenced action context (segment ++ back) ↔
          Evidenced action context back := by
        simp only [Evidenced, storedEntries_append, verification.unrecorded, List.nil_append]
      have digestible : ∀ event ∈ segment ++ back,
          HaVerifier.Digestible writer.searchPath event := by
        intro event member
        rcases List.mem_append.mp member with member | member
        · exact verification.returns.mp ⟨_, rfl⟩ event member
        · exact digestible_of_record record event member
      have encodable := hashPayload_eq_ok.mp ⟨hash, hashed⟩
      rw [stored, record_evidence storage.part.2 record fixed rfl, and_iff_right digestible,
        and_iff_right encodable]

end Runs

namespace LegacyOperation

section

variable [Runtime] {kind : LegacyKind} {State : Type} {operation : LegacyOperation kind}
  {context : LegacyContext} {trace front back : Trace Party} {outcome : Except Exn LegacyResult}

open LegacyWriter

theorem action_encodable : Encodable operation.action := by
  cases operation <;> cases kind <;> rfl

theorem rollbackNote_encodable : Encodable kind.writer.rollbackNote := by
  cases kind <;> rfl

omit [Runtime] in
theorem encodable_append {left right : Str} :
    Encodable (left ++ right) ↔ Encodable left ∧ Encodable right := by
  simp [Encodable]

/-- Readings of the clock around a trace change nothing. -/
theorem recordable_timed {started : Clock} (more : Trace Party)
    (quiet : ∀ event ∈ more, event.request = .clock) :
    Recordable operation context (⟨.clock, started⟩ :: front ++ more) ↔
      Recordable operation context front := by
  have unposted : posts more = [] := by
    apply posts_eq_nil
    intro event member post
    rw [quiet event member] at post
    exact post
  have same : posts (⟨.clock, started⟩ :: front ++ more) = posts front := by
    simp [unposted]
  have digestible : (∀ event ∈ (⟨.clock, started⟩ : Exchange Party) :: front ++ more,
      HaVerifier.Digestible kind.writer.searchPath event) ↔
        ∀ event ∈ front, HaVerifier.Digestible kind.writer.searchPath event := by
    constructor
    · intro all event member
      exact all event (by simp [member])
    · intro all event member
      rcases List.mem_append.mp member with member | member
      · rcases List.mem_cons.mp member with rfl | member
        · simp [HaVerifier.Digestible]
        · exact all event member
      · have clock := quiet event member
        rcases event with ⟨request, answer⟩
        subst clock
        simp [HaVerifier.Digestible]
  constructor
  · intro recordable
    refine ⟨?_, digestible.mp recordable.digestible, recordable.actor, recordable.host, ?_⟩
    · rw [← same]
      exact recordable.object
    · rw [← same]
      exact recordable.texts
  · intro recordable
    refine ⟨?_, digestible.mpr recordable.digestible, recordable.actor, recordable.host, ?_⟩
    · rw [same]
      exact recordable.object
    · rw [same]
      exact recordable.texts

/-- When a record is all that follows the POSTs, it is stored exactly if it is recordable. -/
theorem early_evidence (sent : List (Post Party)) {segment : Trace Party} {target detail : Str}
    {saved : Except Exn AuditEntry} (storage : StorageWorks (sent.map Post.exchange ++ segment))
    (record : RecordRun (auditEntry context operation.action target "error" detail [] 0)
      segment saved)
    (object : ∀ input, operation = create input → ∀ post ∈ sent.head?, ∀ value,
      post.reply = .ok value → value.isObj = true)
    (texts : (Encodable target ∧ Encodable detail) ↔
      ∀ text ∈ operation.recordTexts (sent.map Post.reply), Encodable text) :
    Evidenced operation.action context (sent.map Post.exchange ++ segment) ↔
      Recordable operation context (sent.map Post.exchange ++ segment) := by
  have posted : posts (sent.map Post.exchange ++ segment) = sent := by
    rw [posts_append, record.posts, posts_exchanges, List.append_nil]
  have digestible : ∀ event ∈ sent.map Post.exchange ++ segment,
      HaVerifier.Digestible kind.writer.searchPath event := by
    intro event member
    rcases List.mem_append.mp member with member | member
    · rcases List.mem_map.mp member with ⟨post, _, rfl⟩
      simp [Post.exchange, HaVerifier.Digestible]
    · exact digestible_of_record record event member
  have stored : Evidenced operation.action context (sent.map Post.exchange ++ segment) ↔
      Evidenced operation.action context segment := by
    simp only [Evidenced, storedEntries_append, storedEntries_exchanges, List.nil_append]
  rw [stored, record_evidence storage.part.2 record action_encodable rfl, texts]
  constructor
  · rintro ⟨actor, host, texts⟩
    refine ⟨?_, digestible, actor, host, ?_⟩
    · rwa [posted]
    · rwa [posted]
  · intro recordable
    refine ⟨recordable.actor, recordable.host, ?_⟩
    rw [← posted]
    exact recordable.texts

theorem add_evidence {input : kind.Input} {result : Except Exn (Except LegacyResult Str)}
    (storage : StorageWorks front)
    (acknowledged : Acknowledged (create input : LegacyOperation kind) front)
    (block : AddRun kind.writer context input front result)
    (early : ∀ uuid, result ≠ .ok (.ok uuid)) :
    Evidenced (create input : LegacyOperation kind).action context front ↔
      Recordable (create input : LegacyOperation kind) context front := by
  cases block with
  | refused record =>
      rcases acknowledged with ⟨post, first, _, _, value, answered⟩
      cases first
      cases answered
  | malformed malformed error =>
      apply iff_of_false
      · rintro ⟨entry, same, _⟩
        cases same
      · intro recordable
        have object := recordable.object input rfl _ rfl _ rfl
        rw [malformed] at object
        cases object
  | @unnamed fields segment saved unnamed record =>
      refine early_evidence [⟨.client, _, _, .ok (.obj fields)⟩] storage record ?_ ?_
      · rintro _ _ _ ⟨⟩ _ ⟨⟩
        rfl
      · have constant : Encodable "no uuid in response" := rfl
        simp [recordTexts, createdTexts, constant]
  | @rolledBack fields failure compensation segment saved _ record =>
      refine early_evidence [⟨.client, _, _, .ok (.obj fields)⟩,
        ⟨.client, _, _, .error failure⟩, ⟨.client, _, _, compensation⟩] storage record ?_ ?_
      · rintro _ _ _ ⟨⟩ _ ⟨⟩
        rfl
      · simp [recordTexts, createdTexts, encodable_append, rollbackNote_encodable]
  | applied => exact absurd rfl (early _)

theorem change_evidence {uuid path : Str} {payload : Json}
    {result : Except Exn (Except LegacyResult Unit)} (storage : StorageWorks front)
    (acknowledged : Acknowledged operation front)
    (block : ChangeRun kind.writer context operation.action uuid path payload front result)
    (early : result ≠ .ok (.ok ())) (noCreate : ∀ input, operation ≠ create input)
    (texts : ∀ (value : Json) (failure : Failure),
      operation.recordTexts [.ok value, .error failure] = [uuid, failure.detail]) :
    Evidenced operation.action context front ↔ Recordable operation context front := by
  cases block with
  | refused record =>
      rcases acknowledged with ⟨post, first, _, _, value, answered⟩
      cases first
      cases answered
  | @unapplied value failure segment saved record =>
      refine early_evidence [⟨.client, _, _, .ok value⟩, ⟨.client, _, _, .error failure⟩]
        storage record ?_ ?_
      · intro input same
        exact absurd same (noCreate input)
      · simp [texts]
  | applied => exact absurd rfl early

/-- When the change was applied, it is recorded exactly if it is recordable. -/
theorem applied_evidence (first second : Post Party) {started ended : Clock} {value done : Json}
    {target detail uuid : Str} {payload : Option Json} {durationMs : Int}
    (storage : StorageWorks (⟨.clock, started⟩ :: [first, second].map Post.exchange ++
      ⟨.clock, ended⟩ :: back))
    (answered : first.reply = .ok value) (applied : second.reply = .ok done)
    (object : ∀ input, operation = create input → value.isObj = true)
    (finish : FinishRun kind.writer context operation.action target detail uuid payload durationMs
      back outcome)
    (texts : ∀ later, (Encodable (payload.getD .null).dumps ∧ Encodable target ∧
      Encodable detail) ↔
        ∀ text ∈ operation.recordTexts (.ok value :: .ok done :: later), Encodable text) :
    Evidenced operation.action context (⟨.clock, started⟩ :: [first, second].map Post.exchange ++
        ⟨.clock, ended⟩ :: back) ↔
      Recordable operation context (⟨.clock, started⟩ :: [first, second].map Post.exchange ++
        ⟨.clock, ended⟩ :: back) := by
  have storage' : StorageWorks back := by
    intro entry answer member
    exact storage entry answer (by simp [member])
  have posted : posts (⟨.clock, started⟩ :: [first, second].map Post.exchange ++
      ⟨.clock, ended⟩ :: back) = first :: second :: posts back := by
    simp [Post.exchange]
  have stored : Evidenced operation.action context (⟨.clock, started⟩ ::
      [first, second].map Post.exchange ++ ⟨.clock, ended⟩ :: back) ↔
        Evidenced operation.action context back := by
    simp [Evidenced, Post.exchange]
  have digestible : (∀ event ∈ (⟨.clock, started⟩ : Exchange Party) ::
      [first, second].map Post.exchange ++ ⟨.clock, ended⟩ :: back,
        HaVerifier.Digestible kind.writer.searchPath event) ↔
      ∀ event ∈ back, HaVerifier.Digestible kind.writer.searchPath event := by
    simp [Post.exchange, HaVerifier.Digestible]
  rw [stored, finish_evidence storage' action_encodable finish, ← digestible]
  have texts := texts ((posts back).map Post.reply)
  constructor
  · rintro ⟨readable, payloadOk, actor, host, targetOk, detailOk⟩
    refine ⟨?_, readable, actor, host, ?_⟩
    · intro input same post member answer replied
      rw [posted] at member
      cases member
      cases answered.symm.trans replied
      exact object input same
    · rw [posted, List.map_cons, List.map_cons, answered, applied]
      exact texts.mp ⟨payloadOk, targetOk, detailOk⟩
  · intro recordable
    have shown := recordable.texts
    rw [posted, List.map_cons, List.map_cons, answered, applied] at shown
    rcases texts.mpr shown with ⟨payloadOk, targetOk, detailOk⟩
    exact ⟨recordable.digestible, payloadOk, recordable.actor, recordable.host, targetOk,
      detailOk⟩

/-- What a timed run leaves when the block ended early -/
theorem timed_evidence {α : Type}
    {Block : Trace Party → Except Exn (Except LegacyResult α) → Prop}
    {Finish : α → Int → Trace Party → Except Exn LegacyResult → Prop}
    (run : TimedRun Block Finish trace outcome) (storage : StorageWorks trace)
    (acknowledged : Acknowledged operation trace)
    (early : ∀ front result, Block front result → (∀ value, result ≠ .ok (.ok value)) →
      StorageWorks front → Acknowledged operation front →
        (Evidenced operation.action context front ↔ Recordable operation context front))
    (late : ∀ (started ended : Clock) front back value elapsed,
      Block front (.ok (.ok value)) → Finish value elapsed back outcome →
        StorageWorks (⟨.clock, started⟩ :: front ++ ⟨.clock, ended⟩ :: back) →
        (Evidenced operation.action context
          (⟨.clock, started⟩ :: front ++ ⟨.clock, ended⟩ :: back) ↔
          Recordable operation context
            (⟨.clock, started⟩ :: front ++ ⟨.clock, ended⟩ :: back))) :
    Evidenced operation.action context trace ↔ Recordable operation context trace := by
  cases run with
  | @raised started front error block =>
      have storage' : StorageWorks front := by
        intro entry answer member
        exact storage entry answer (List.mem_cons_of_mem _ member)
      have timed : Recordable operation context (⟨.clock, started⟩ :: front) ↔
          Recordable operation context front := by
        simpa using @recordable_timed _ kind operation context front started [] (by simp)
      rw [timed]
      exact early front _ block (by simp) storage' acknowledged
  | @returned started ended front result block =>
      have storage' : StorageWorks front := by
        intro entry answer member
        exact storage entry answer (by simp [member])
      have posted : posts (⟨.clock, started⟩ :: front ++ [⟨.clock, ended⟩]) = posts front := by
        simp
      have acknowledged' : Acknowledged operation front := by
        unfold Acknowledged
        rwa [← posted]
      have stored : Evidenced operation.action context
          (⟨.clock, started⟩ :: front ++ [⟨.clock, ended⟩]) ↔
            Evidenced operation.action context front := by
        simp [Evidenced]
      rw [stored, recordable_timed [⟨.clock, ended⟩] (by simp)]
      exact early front _ block (by simp) storage' acknowledged'
  | finished block finish => exact late _ _ _ _ _ _ block finish storage

/-- Once the mutating POST was acknowledged, an operation leaves exactly one audit record if and
only if it is recordable. -/
theorem call_evidenced_iff (storage : StorageWorks trace)
    (acknowledged : Acknowledged operation trace)
    (run : (operation.call context : Py Party State LegacyResult).Run
      before trace outcome after) :
    Evidenced operation.action context trace ↔ Recordable operation context trace := by
  have apart := kind.searchPath_ne_sysinfoPath
  have sent : ¬ Acknowledged operation [] := by
    rintro ⟨_, first, _⟩
    cases first
  cases operation with
  | create input =>
      rcases create_run apart run with ⟨_, run⟩ | ⟨error, _, rfl, _⟩
      · refine timed_evidence run storage acknowledged ?_ ?_
        · intro front result block notApplied storage acknowledged
          exact add_evidence storage acknowledged block notApplied
        · intro started ended front back uuid elapsed block finish storage
          rcases block.of_ok rfl with ⟨fields, value, rfl, rfl⟩
          refine applied_evidence ⟨.client, _, _, .ok (.obj fields)⟩ ⟨.client, _, _, .ok value⟩
            storage rfl rfl (fun _ _ => rfl) finish ?_
          intro later
          simp only [recordTexts, createdTexts, List.head?_cons, List.mem_cons,
            List.not_mem_nil, or_false, forall_eq_or_imp, forall_eq, Option.getD_some]
          constructor
          · rintro ⟨payload, target, detail⟩
            exact ⟨target, detail, payload⟩
          · rintro ⟨target, detail, payload⟩
            exact ⟨payload, target, detail⟩
      · exact absurd acknowledged sent
  | update setName available uuid input =>
      rw [call, LegacyWriter.update, Action.run_bind_ofExcept] at run
      rcases run with ⟨_, _, run⟩ | ⟨_, _, rfl, _⟩
      · refine timed_evidence (changeAndFinish_run apart run) storage acknowledged ?_ ?_
        · intro front result block notApplied storage acknowledged
          exact change_evidence storage acknowledged block (notApplied ()) (by simp)
            fun _ _ => rfl
        · intro started ended front back _ elapsed block finish storage
          rcases block.of_ok rfl with ⟨value, done, rfl⟩
          refine applied_evidence ⟨.client, _, _, .ok value⟩ ⟨.client, _, _, .ok done⟩
            storage rfl rfl (by simp) finish ?_
          intro later
          simp only [recordTexts, List.mem_cons, List.not_mem_nil, or_false,
            forall_eq_or_imp, forall_eq, Option.getD_some]
          constructor
          · rintro ⟨payload, target, detail⟩
            exact ⟨target, detail, payload⟩
          · rintro ⟨target, detail, payload⟩
            exact ⟨payload, target, detail⟩
      · exact absurd acknowledged sent
  | delete uuid =>
      refine timed_evidence (changeAndFinish_run apart run) storage acknowledged ?_ ?_
      · intro front result block notApplied storage acknowledged
        exact change_evidence storage acknowledged block (notApplied ()) (by simp)
          fun _ _ => rfl
      · intro started ended front back _ elapsed block finish storage
        rcases block.of_ok rfl with ⟨value, done, rfl⟩
        refine applied_evidence ⟨.client, _, _, .ok value⟩ ⟨.client, _, _, .ok done⟩
          storage rfl rfl (by simp) finish ?_
        intro later
        have null : Encodable (Json.null).dumps := rfl
        have empty : Encodable [] := rfl
        simp [recordTexts, null, empty]

end

/-! ### A change without a record -/

def plainContext : LegacyContext where
  actor := "qa"
  hostName := "lab"
  ha := none

/-- An outbound NAT rule whose description is an unpaired surrogate -/
def surrogateNat : NatInput where
  interface := "wan"
  target := "192.0.2.1"
  sourceNet := "any"
  destinationNet := "any"
  description := [0xd800]
  enabled := true
  ipprotocol := "inet"
  protocol := "any"

abbrev surrogateCreate : @LegacyOperation Runtime.ascii .nat :=
  @create Runtime.ascii .nat surrogateNat

def unrecordedTrace : Trace Party :=
  [⟨.clock, ⟨"2026-01-01T00:00:00Z", 0⟩⟩,
    ⟨.post .client "/api/firewall/source_nat/addRule" surrogateNat.toPayload,
      .ok (.obj [("uuid", .str "u1")])⟩,
    ⟨.post .client "/api/firewall/source_nat/apply" (.obj []), .ok (.obj [])⟩,
    ⟨.clock, ⟨"2026-01-01T00:00:00Z", 9⟩⟩]

theorem unrecorded_run :
    (@call Runtime.ascii .nat Unit surrogateCreate plainContext).Run () unrecordedTrace
      (.error unicodeEncodeError) () :=
  .ask _ (.ask _ (.ask _ (.ask _ (.refl _))))

theorem unrecorded_storage : StorageWorks unrecordedTrace := by
  intro entry answer member
  simp [unrecordedTrace] at member

theorem unrecorded_acknowledged :
    @Acknowledged Runtime.ascii .nat surrogateCreate unrecordedTrace :=
  ⟨_, rfl, rfl, rfl, _, rfl⟩

/-- The rule was added and applied, and nothing was recorded. -/
theorem call_unevidenced :
    (@call Runtime.ascii .nat Unit surrogateCreate plainContext).Run () unrecordedTrace
        (.error unicodeEncodeError) () ∧
      StorageWorks unrecordedTrace ∧
      @Acknowledged Runtime.ascii .nat surrogateCreate unrecordedTrace ∧
      ¬ Evidenced (@action Runtime.ascii .nat surrogateCreate) plainContext unrecordedTrace := by
  refine ⟨unrecorded_run, unrecorded_storage, unrecorded_acknowledged, ?_⟩
  rintro ⟨entry, same, _⟩
  cases same

theorem call_evidenced_iff_surrogate :
    Evidenced (@action Runtime.ascii .nat surrogateCreate) plainContext unrecordedTrace ↔
      @Recordable Runtime.ascii .nat surrogateCreate plainContext unrecordedTrace :=
  @call_evidenced_iff Runtime.ascii .nat Unit surrogateCreate plainContext unrecordedTrace _ ()
    () unrecorded_storage unrecorded_acknowledged unrecorded_run

end LegacyOperation

end OpnsensePlugin
