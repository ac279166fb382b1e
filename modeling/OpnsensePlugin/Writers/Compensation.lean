import OpnsensePlugin.Writers.LegacyRuns

/-!
# Compensation of failed creations

A legacy writer that cannot apply a created row deletes it again, and says that
the row was rolled back. It says so whether the delete succeeded or not.
-/

namespace OpnsensePlugin

open Effects Python

/-- The failures of POSTs carry the texts that `OPNsenseClient._request` makes. -/
def ClientTexts (trace : Trace Party) : Prop :=
  ∀ post ∈ posts trace, ∀ failure, post.reply = .error failure →
    ("POST " : Str) <+: failure.detail

namespace LegacyWriter

variable {Input : Type} {writer : LegacyWriter Input} {context : LegacyContext} {input : Input}
  {trace segment : Trace Party}

/-- The result or a stored record says that the created row was rolled back. -/
def SaysRolledBack (writer : LegacyWriter Input) (trace : Trace Party)
    (outcome : Except Exn LegacyResult) : Prop :=
  (∃ result, outcome = .ok result ∧ writer.rollbackNote <+: result.detail) ∨
    ∃ entry ∈ storedEntries trace, entry.result = "error" ∧ writer.rollbackNote <+: entry.detail

/-- A creation reports a rollback only if the row it added was deleted, and success only if the
row was added and applied and nothing else was sent. -/
structure HonestCreation [Runtime] (writer : LegacyWriter Input) (trace : Trace Party)
    (outcome : Except Exn LegacyResult) : Prop where
  compensated : SaysRolledBack writer trace outcome → ∃ added applied deleted fields value,
    posts trace = [added, applied, deleted] ∧ added.reply = .ok (.obj fields) ∧
      deleted.path = writer.itemPath writer.delName (fieldText fields "uuid") ∧
      deleted.reply = .ok value
  completed : ∀ result, outcome = .ok result → result.ok = true →
    ∃ added applied first second,
      (posts trace).filter (fun post => post.node = .client) = [added, applied] ∧
        added.path = writer.path writer.addName ∧ added.reply = .ok first ∧
        applied.path = writer.applyPath ∧ applied.reply = .ok second

/-- The apply and the compensating delete failed, and this was reported. -/
def OrphanReported (trace : Trace Party) : Prop :=
  (∃ added applied deleted failure unfinished, posts trace = [added, applied, deleted] ∧
    applied.reply = .error failure ∧ deleted.reply = .error unfinished) ∧
  ∀ entry, (⟨.append entry, .error .encoding⟩ : Exchange Party) ∉ trace

end LegacyWriter

namespace LegacyKind

open LegacyWriter

section

variable [Runtime] {State : Type} {kind : LegacyKind} {context : LegacyContext}
  {input : kind.Input} {before after : State} {trace : Trace Party}
  {outcome : Except Exn LegacyResult}

/-- The note of a writer begins neither the texts of the client nor its own other texts. -/
theorem rollbackNote_not_before {text : Str} (notApply : text.head? ≠ some (code 'a'))
    (notReconfigure : text.head? ≠ some (code 'r')) :
    ¬ kind.writer.rollbackNote <+: text := by
  rintro ⟨rest, rfl⟩
  cases kind with
  | aliases => exact notReconfigure rfl
  | _ => exact notApply rfl

theorem not_prefix_of_failure {failure : Failure} (client : ("POST " : Str) <+: failure.detail) :
    ¬ kind.writer.rollbackNote <+: failure.detail := by
  rcases client with ⟨rest, text⟩
  rw [← text]
  apply rollbackNote_not_before
  · exact fun same => absurd (Option.some.inj same) (by decide)
  · exact fun same => absurd (Option.some.inj same) (by decide)

/-- The block that ended without a rollback and without a row that was applied -/
structure Abandoned (kind : LegacyKind) (front : Trace Party)
    (result : Except Exn (Except LegacyResult Str)) : Prop where
  single : ∃ added, posts front = [added]
  entries : ∀ entry ∈ storedEntries front, ¬ kind.writer.rollbackNote <+: entry.detail
  returned : ∀ value, result = .ok value → ∃ early, value = .error early ∧ early.ok = false ∧
    ¬ kind.writer.rollbackNote <+: early.detail

theorem abandoned_of_record {path : Str} {body : Json} {reply : Reply} {segment : Trace Party}
    {entry : Clock → AuditEntry} {saved : Except Exn AuditEntry} {early : LegacyResult}
    (record : RecordRun entry segment saved) (failed : early.ok = false)
    (plain : ¬ kind.writer.rollbackNote <+: early.detail)
    (plainEntry : ∀ now, ¬ kind.writer.rollbackNote <+: (entry now).detail) :
    Abandoned kind (⟨.post .client path body, reply⟩ :: segment)
      (saved.map fun _ => .error early) where
  single := ⟨_, by rw [posts_post, record.posts]⟩
  entries := by
    intro stored member
    rw [storedEntries_post] at member
    rcases record.of_stored member with ⟨now, rfl⟩
    exact plainEntry now
  returned := by
    intro value same
    cases saved with
    | error error => cases same
    | ok written =>
        cases same
        exact ⟨early, rfl, failed, plain⟩

/-- An abandoned creation is honest. -/
theorem Abandoned.honest {front : Trace Party} {result : Except Exn (Except LegacyResult Str)}
    (abandoned : Abandoned kind front result) (posted : posts trace = posts front)
    (stored : storedEntries trace = storedEntries front)
    (ended : ∀ value, outcome = .ok value → result = .ok (.error value)) :
    HonestCreation kind.writer trace outcome ↔ ¬ OrphanReported trace := by
  rcases abandoned.single with ⟨added, only⟩
  have silent : ¬ SaysRolledBack kind.writer trace outcome := by
    rintro (⟨value, same, note⟩ | ⟨entry, member, _, note⟩)
    · rcases abandoned.returned _ (ended value same) with ⟨early, same, _, plain⟩
      cases same
      exact plain note
    · rw [stored] at member
      exact abandoned.entries entry member note
  apply iff_of_true
  · refine ⟨fun claimed => absurd claimed silent, ?_⟩
    intro value same success
    rcases abandoned.returned _ (ended value same) with ⟨early, same, failed, _⟩
    cases same
    simp [failed] at success
  · rintro ⟨⟨_, _, _, _, _, three, _⟩, _⟩
    rw [posted, only] at three
    cases three

theorem addRun_cases {front : Trace Party} {result : Except Exn (Except LegacyResult Str)}
    (texts : ClientTexts front) (block : AddRun kind.writer context input front result) :
    Abandoned kind front result ∨
    (∃ fields failure compensation segment saved,
      RecordRun (auditEntry context (kind.writer.kind ++ ".create")
        (kind.writer.failedTarget input) "error" (kind.writer.rollbackNote ++ failure.detail)
        [] 0) segment saved ∧
      front =
        ⟨.post .client (kind.writer.path kind.writer.addName)
          (sentBody (kind.writer.toPayload input)), .ok (.obj fields)⟩ ::
        ⟨.post .client kind.writer.applyPath (.obj []), .error failure⟩ ::
        ⟨.post .client (kind.writer.itemPath kind.writer.delName (fieldText fields "uuid"))
          (.obj []), compensation⟩ :: segment ∧
      result = saved.map fun _ => .error
        { ok := false, detail := kind.writer.rollbackNote ++ failure.detail }) ∨
    ∃ fields value, front =
      [⟨.post .client (kind.writer.path kind.writer.addName)
        (sentBody (kind.writer.toPayload input)), .ok (.obj fields)⟩,
        ⟨.post .client kind.writer.applyPath (.obj []), .ok value⟩] ∧
      ∃ uuid, result = .ok (.ok uuid) := by
  cases block with
  | refused record =>
      have client := texts _ (by rw [posts_post]; exact List.mem_cons_self) _ rfl
      exact .inl (abandoned_of_record record rfl (not_prefix_of_failure client)
        fun _ => not_prefix_of_failure client)
  | malformed _ error =>
      refine .inl ⟨⟨_, rfl⟩, ?_, ?_⟩
      · intro entry member
        cases member
      · intro value same
        cases same
  | unnamed _ record =>
      have plain : ¬ kind.writer.rollbackNote <+: ("no uuid in response" : Str) :=
        rollbackNote_not_before (by decide) (by decide)
      exact .inl (abandoned_of_record record rfl
        (rollbackNote_not_before (by decide) (by decide)) fun _ => plain)
  | rolledBack _ record => exact .inr (.inl ⟨_, _, _, _, _, record, rfl, rfl⟩)
  | applied _ => exact .inr (.inr ⟨_, _, rfl, _, rfl⟩)

/-- What follows an applied creation sends nothing more to the firewall. -/
theorem finish_posts {action target detail uuid : Str} {payload : Option Json} {durationMs : Int}
    (run : FinishRun kind.writer context action target detail uuid payload durationMs trace
      outcome) : ∀ post ∈ posts trace, post.node ≠ .client := by
  have synced : ∀ {segment : Trace Party} {sync : Except Exn (Option HaVerifier.SyncResult)},
      VerificationRun kind.writer.searchPath segment sync →
        ∀ post ∈ posts segment, post.node ≠ .client := by
    intro segment sync verification post member
    rcases exists_of_mem_posts member with ⟨front, back, rfl⟩
    have request := verification.requests _ (List.mem_append_right front List.mem_cons_self)
    intro same
    cases same.symm.trans request
  cases run with
  | unverified verification => exact synced verification
  | unhashed verification _ => exact synced verification
  | recorded verification _ record =>
      rw [posts_append, record.posts, List.append_nil]
      exact synced verification

/-- What follows an applied creation says nothing of a rollback. -/
theorem finish_silent {action target detail uuid : Str} {payload : Option Json} {durationMs : Int}
    (run : FinishRun kind.writer context action target detail uuid payload durationMs trace
      outcome) : ¬ SaysRolledBack kind.writer trace outcome := by
  have unrecorded : ∀ {segment : Trace Party}
      {sync : Except Exn (Option HaVerifier.SyncResult)},
      VerificationRun kind.writer.searchPath segment sync → storedEntries segment = [] := by
    intro segment sync verification
    apply storedEntries_eq_nil
    intro event member entry same
    have request := verification.requests event member
    rw [same] at request
    exact request
  have plain : ¬ kind.writer.rollbackNote <+: [] :=
    rollbackNote_not_before (by decide) (by decide)
  rintro (⟨result, same, note⟩ | ⟨entry, member, failed, note⟩)
  · cases run with
    | unverified | unhashed => cases same
    | @recorded _ _ _ _ saved _ _ _ =>
        cases saved with
        | error error => cases same
        | ok written =>
            cases same
            exact plain note
  · cases run with
    | unverified verification | unhashed verification _ =>
        rw [unrecorded verification] at member
        cases member
    | recorded verification _ record =>
        rw [storedEntries_append, unrecorded verification, List.nil_append] at member
        rcases record.of_stored member with ⟨now, rfl⟩
        exact absurd failed (by decide : ("ok" : Str) ≠ "error")

/-- A reported rollback is honest exactly if the compensating delete has succeeded. -/
theorem rolledBack_honest_iff {fields : List (Str × Json)} {failure : Failure}
    {added applied deleted : Post Party} (three : posts trace = [added, applied, deleted])
    (created : added.reply = .ok (.obj fields)) (unapplied : applied.reply = .error failure)
    (compensation : deleted.path =
      kind.writer.itemPath kind.writer.delName (fieldText fields "uuid"))
    (reported : SaysRolledBack kind.writer trace outcome)
    (failed : ∀ result, outcome = .ok result → result.ok = false)
    (storable : ∀ entry, (⟨.append entry, .error .encoding⟩ : Exchange Party) ∉ trace) :
    HonestCreation kind.writer trace outcome ↔ ¬ OrphanReported trace := by
  constructor
  · rintro honest ⟨⟨_, _, _, _, unfinished, same, _, refused⟩, _⟩
    rcases honest.compensated reported with ⟨_, _, _, _, _, again, _, _, succeeded⟩
    rw [again] at same
    cases same
    cases refused.symm.trans succeeded
  · intro sound
    refine ⟨fun _ => ?_, ?_⟩
    · cases answered : deleted.reply with
      | error unfinished =>
          exact absurd ⟨⟨_, _, _, _, _, three, unapplied, answered⟩, storable⟩ sound
      | ok value => exact ⟨_, _, _, fields, value, three, created, compensation, answered⟩
    · intro result same success
      simp [failed result same] at success

/-- A legacy creation is honest unless it reports a rollback whose delete has failed. -/
theorem create_honest_iff (texts : ClientTexts trace)
    (run : (kind.writer.create context input : Py Party State LegacyResult).Run
      before trace outcome after) :
    HonestCreation kind.writer trace outcome ↔ ¬ OrphanReported trace := by
  rcases create_run kind.searchPath_ne_sysinfoPath run with
    ⟨_, run⟩ | ⟨error, _, rfl, rfl⟩
  · cases run with
    | @raised started front error block =>
        have client : ClientTexts front := texts
        rcases addRun_cases client block with abandoned |
          ⟨fields, failure, compensation, segment, saved, record, rfl, ended⟩ |
          ⟨fields, value, _, uuid, ended⟩
        · exact abandoned.honest rfl rfl (by simp)
        · -- the failed record is not stored
          have refused : ∃ entry, (⟨.append entry, .error .encoding⟩ : Exchange Party) ∈
              segment := by
            by_contra none
            rcases record.encodable.mpr fun other member => none ⟨other, member⟩ with ⟨_, rfl⟩
            cases ended
          rcases refused with ⟨entry, refused⟩
          apply iff_of_true
          · refine ⟨?_, by simp⟩
            rintro (⟨_, same, _⟩ | ⟨stored, member, _⟩)
            · cases same
            · cases record with
              | unencodable now => cases member
              | stored | lost => cases ended
          · rintro ⟨_, storable⟩
            exact storable entry (by simp [refused])
        · cases ended
    | @returned started ended front result block =>
        have posted : posts (⟨.clock, started⟩ :: front ++ [⟨.clock, ended⟩]) = posts front := by
          simp
        have client : ClientTexts front := by
          unfold ClientTexts
          rwa [← posted]
        rcases addRun_cases client block with abandoned |
          ⟨fields, failure, compensation, segment, saved, record, rfl, ended⟩ |
          ⟨fields, value, _, uuid, ended⟩
        · refine abandoned.honest posted (by simp) ?_
          intro value same
          cases same
          rfl
        · have written := record.encodable.mp
          cases saved with
          | error error => cases ended
          | ok entry =>
              cases ended
              have three := posted
              simp only [posts_post, record.posts] at three
              refine rolledBack_honest_iff three rfl rfl rfl
                (.inl ⟨_, rfl, List.prefix_append _ _⟩) ?_ ?_
              · rintro _ ⟨⟩
                rfl
              · simpa using written ⟨entry, rfl⟩
        · cases ended
    | @finished started ended front back uuid elapsed outcome block finish =>
        have client : ClientTexts front := by
          intro post member
          apply texts
          rw [List.cons_append, posts_clock, posts_append]
          exact List.mem_append_left _ member
        rcases addRun_cases client block with abandoned |
          ⟨fields, failure, compensation, segment, saved, record, rfl, ended⟩ |
          ⟨fields, value, rfl, _, _⟩
        · rcases abandoned.returned _ rfl with ⟨_, same, _⟩
          cases same
        · cases saved <;> cases ended
        · have later := finish_posts finish
          have silent := finish_silent finish
          apply iff_of_true
          · refine ⟨?_, ?_⟩
            · rintro (⟨result, same, note⟩ | ⟨entry, member, failed⟩)
              · exact absurd (.inl ⟨result, same, note⟩) silent
              · exact absurd (.inr ⟨entry, by simpa using member, failed⟩) silent
            · intro result _ _
              refine ⟨⟨.client, _, sentBody (kind.writer.toPayload input), .ok (.obj fields)⟩,
                ⟨.client, _, .obj [], .ok value⟩, .obj fields, value, ?_, rfl, rfl, rfl, rfl⟩
              have none : (posts back).filter (fun post => post.node = .client) = [] := by
                simpa using later
              simp [none, path]
          · rintro ⟨⟨_, _, _, _, _, three, failed, _⟩, _⟩
            simp only [List.cons_append, posts_clock, posts_post, List.nil_append,
              List.cons.injEq] at three
            rw [← three.2.1] at failed
            cases failed
  · apply iff_of_true
    · refine ⟨?_, by simp⟩
      rintro (⟨_, same, _⟩ | ⟨stored, member, _⟩)
      · cases same
      · cases member
    · rintro ⟨⟨_, _, _, _, _, three, _⟩, _⟩
      cases three

end

/-! ### A compensation that failed -/

def demoContext : LegacyContext where
  actor := "qa"
  hostName := "lab"
  ha := none

def demoNat : NatInput where
  interface := "wan"
  target := "192.0.2.1"
  sourceNet := "any"
  destinationNet := "any"
  description := "qa"
  enabled := true
  ipprotocol := "inet"
  protocol := "any"

def timedOut (path : Str) : Failure :=
  .timeout ("POST " ++ path ++ " failed after 1 attempt(s): timed out")

def orphanPosts : List (Post Party) :=
  [⟨.client, "/api/firewall/source_nat/addRule", demoNat.toPayload,
      .ok (.obj [("uuid", .str "u1")])⟩,
    ⟨.client, "/api/firewall/source_nat/apply", .obj [],
      .error (timedOut "/api/firewall/source_nat/apply")⟩,
    ⟨.client, "/api/firewall/source_nat/delRule/u1", .obj [],
      .error (timedOut "/api/firewall/source_nat/delRule/u1")⟩]

def rolledBackDetail : Str :=
  "apply failed → rolled back: " ++ (timedOut "/api/firewall/source_nat/apply").detail

def orphanEntry : AuditEntry where
  ts := "2026-01-01T00:00:00Z"
  user := "qa"
  action := "nat.create"
  target := "wan"
  host := "lab"
  result := "error"
  durationMs := 0
  detail := rolledBackDetail
  payloadSha256 := []

def orphanTrace : Trace Party :=
  ⟨.clock, ⟨"2026-01-01T00:00:00Z", 0⟩⟩ ::
    orphanPosts.map (fun post => ⟨.post post.node post.path post.body, post.reply⟩) ++
    [⟨.clock, ⟨"2026-01-01T00:00:00Z", 0⟩⟩, ⟨.append orphanEntry, .ok ()⟩,
      ⟨.clock, ⟨"2026-01-01T00:00:00Z", 0⟩⟩]

theorem orphan_run :
    (@create Runtime.ascii _ Unit (@writer Runtime.ascii .nat) demoContext demoNat).Run ()
      orphanTrace (.ok { ok := false, detail := rolledBackDetail }) () := by
  refine .ask _ (.ask _ (.ask _ (.ask _ (.ask _ (.ask _ (.ask _ (.refl _)))))))

theorem orphan_posts : posts orphanTrace = orphanPosts := rfl

theorem orphan_texts : ClientTexts orphanTrace := by
  intro post member failure answered
  rw [orphan_posts] at member
  simp only [orphanPosts, List.mem_cons, List.not_mem_nil, or_false] at member
  rcases member with rfl | rfl | rfl
  · cases answered
  · cases answered
    exact ⟨_, rfl⟩
  · cases answered
    exact ⟨_, rfl⟩

/-- The row was added and not deleted, and the result says that it was rolled back. -/
theorem create_misreports :
    (@create Runtime.ascii _ Unit (@writer Runtime.ascii .nat) demoContext demoNat).Run ()
        orphanTrace (.ok { ok := false, detail := rolledBackDetail }) () ∧
      ClientTexts orphanTrace ∧
      ¬ @HonestCreation _ Runtime.ascii (@writer Runtime.ascii .nat) orphanTrace
        (.ok { ok := false, detail := rolledBackDetail }) := by
  refine ⟨orphan_run, orphan_texts, ?_⟩
  intro honest
  have reported : SaysRolledBack (@writer Runtime.ascii .nat) orphanTrace
      (.ok { ok := false, detail := rolledBackDetail }) :=
    .inl ⟨_, rfl, _, rfl⟩
  rcases @HonestCreation.compensated _ Runtime.ascii _ _ _ honest reported with
    ⟨_, _, _, _, _, three, _, _, succeeded⟩
  rw [orphan_posts] at three
  cases three
  cases succeeded

theorem create_honest_iff_orphan :
    @HonestCreation _ Runtime.ascii (@writer Runtime.ascii .nat) orphanTrace
        (.ok { ok := false, detail := rolledBackDetail }) ↔ ¬ OrphanReported orphanTrace :=
  @create_honest_iff Runtime.ascii Unit .nat demoContext demoNat () () orphanTrace _ orphan_texts
    orphan_run

end LegacyKind

end OpnsensePlugin
