import OpnsensePlugin.Python.Walk
import OpnsensePlugin.Routes.Legacy

/-!
# Where a legacy delete goes

The caller's UUID is put behind the delete action of the page without a check,
and the client joins the result to the base URL, which resolves dot segments
and cuts off a query and a fragment. The request stays one segment below the
delete action if and only if the moves of the UUID lead back to it.
-/

namespace OpnsensePlugin

open Effects Python

/-! ## The first request of a change -/

namespace LegacyWriter

variable [Runtime] {Input : Type} {writer : LegacyWriter Input} {context : LegacyContext}
  {action uuid path detail : Str} {payload : Option Json} {trace : Trace Party}
  {outcome : Except Exn LegacyResult}

omit [Runtime] in
theorem ChangeRun.first_post {body : Json} {result : Except Exn (Except LegacyResult Unit)}
    (block : ChangeRun writer context action uuid path body trace result) :
    ∃ reply rest, posts trace = ⟨.client, path, sentBody body, reply⟩ :: rest := by
  cases block <;> exact ⟨_, _, rfl⟩

theorem ChangeAndFinishRun.first_post
    (run : ChangeAndFinishRun writer context action uuid path detail payload trace outcome) :
    ∃ reply rest,
      posts trace = ⟨.client, path, sentBody (payload.getD (.obj [])), reply⟩ :: rest := by
  cases run with
  | raised block => exact block.first_post
  | returned block =>
      rcases block.first_post with ⟨reply, rest, same⟩
      exact ⟨reply, rest, by simp [same]⟩
  | @finished _ ended front back _ _ _ block _ =>
      rcases block.first_post with ⟨reply, rest, same⟩
      exact ⟨reply, rest ++ posts back, by simp [same]⟩

end LegacyWriter

/-! ## Deletes of a page -/

section

variable [Runtime] {State : Type} {before after : State} {trace : Trace Party}
  {page : LegacyPage} {host : Host} {body : List (Str × Json)} {actor : Str} {readOnly : Bool}

/-- A request to delete that passes the checks of a page, to a host whose URL can be joined -/
structure AcceptedDelete (host : Host) (body : List (Str × Json)) (readOnly : Bool) : Prop where
  writable : readOnly = false
  action : LegacyRoute.actionOf body = "delete"
  named : fieldText body "uuid" ≠ []
  https : requireHttps host = .ok ()
  base : (urlsplit host.url).isSome = true

namespace LegacyPage

/-- The delete action of the page: `{BASE}/del…` -/
def deleteAction (page : LegacyPage) : Str := page.kind.writer.path page.kind.writer.delName

/-- The first POST goes to a path one segment below the action. -/
def SentBelow (action : Str) (host : Host) (trace : Trace Party) : Prop :=
  ∃ post rest url split, posts trace = post :: rest ∧ clientUrl host post.path = some url ∧
    urlsplit url = some split ∧ IsEntry action split.path

theorem deleteAction_directory (page : LegacyPage) : IsDirectory page.deleteAction := by
  have same : page.deleteAction = @deleteAction Runtime.ascii page := by
    cases page <;> rfl
  rw [same]
  constructor
  · cases page <;> exact ⟨code 'a', _, rfl, by decide⟩
  all_goals
    cases page <;> decide

/-- What a page sends for an accepted delete -/
theorem delete_posts (accepted : AcceptedDelete host body readOnly)
    {outcome : Except Exn Response}
    (run : (page.route.actionPayload host body actor readOnly : Py Party State Response).Run
      before trace outcome after) :
    ∃ reply rest, posts trace =
      ⟨.client, page.deleteAction ++ code '/' :: fieldText body "uuid", .obj [], reply⟩ :: rest := by
  have checked : LegacyRoute.actionOf body ∈ (["create", "delete"] : List Str) := by
    simp [accepted.action]
  have other : ¬ (LegacyRoute.actionOf body = "create") := by
    rw [accepted.action]
    decide
  have named : (fieldText body "uuid").isEmpty = false := by
    simpa using accepted.named
  have path : page.route.writer.itemPath page.route.writer.delName (fieldText body "uuid") =
      page.deleteAction ++ code '/' :: fieldText body "uuid" := by
    rw [route_writer, LegacyWriter.itemPath, deleteAction, List.append_assoc]
    rfl
  have apart : page.route.writer.searchPath ≠ HaVerifier.sysinfoPath := by
    rw [route_writer]
    exact page.kind.searchPath_ne_sysinfoPath
  have deleted : ∀ {front middle result}, (page.route.delete
      (LegacyRoute.contextOf host actor) body : Py Party State _).Run before front result middle →
      ∃ reply rest, posts front = ⟨.client,
        page.deleteAction ++ code '/' :: fieldText body "uuid", .obj [], reply⟩ :: rest := by
    intro front middle result run
    simp only [LegacyRoute.delete, named, Bool.false_eq_true, if_false] at run
    rw [Action.run_bind_pure] at run
    rcases run with ⟨result, run, rfl⟩
    have sent := (LegacyWriter.changeAndFinish_run apart run).first_post
    rw [path] at sent
    exact sent
  rw [LegacyRoute.actionPayload, accepted.writable] at run
  simp only [Bool.false_eq_true, if_false, checked, not_true_eq_false, other] at run
  rw [Action.run_bind_ofExcept] at run
  rcases run with ⟨_, _, run⟩ | ⟨error, refused, _⟩
  · rw [Action.run_bind_attempt] at run
    rcases run with ⟨front, result, middle, back, rfl, run, _, rest⟩ | ⟨error, _, run, rfl⟩
    · rcases deleted run with ⟨reply, others, same⟩
      exact ⟨reply, others ++ posts back, by simp [same]⟩
    · exact deleted run
  · rw [accepted.https] at refused
    cases refused

/-- A delete stays below its action exactly if its UUID leads back there. -/
theorem delete_sentBelow_iff (accepted : AcceptedDelete host body readOnly)
    {outcome : Except Exn Response}
    (run : (page.route.actionPayload host body actor readOnly : Py Party State Response).Run
      before trace outcome after) :
    SentBelow page.deleteAction host trace ↔
      Returns page.deleteAction (fieldText body "uuid") := by
  have directory := page.deleteAction_directory
  rcases directory.single with ⟨c, tail, shape, single⟩
  have clean : isUnsafeByte c = false := by
    apply directory.clean
    simp [shape]
  have https : ("https://" : Str).isPrefixOf host.url = true := by
    simpa [requireHttps] using accepted.https
  rcases Option.isSome_iff_exists.mp accepted.base with ⟨root, parsed⟩
  rcases delete_posts accepted run with ⟨reply, rest, sent⟩
  have whole : page.deleteAction ++ code '/' :: fieldText body "uuid" =
      code '/' :: c :: (tail ++ code '/' :: fieldText body "uuid") := by
    rw [shape]
    rfl
  rcases @urljoin_https _ _ c root (tail ++ code '/' :: fieldText body "uuid") https parsed single
    clean with ⟨url, split, joined, found, path⟩
  rw [← whole] at joined path
  have addressed : clientUrl host (page.deleteAction ++ code '/' :: fieldText body "uuid") =
      some url := by
    rw [clientUrl, ← joined, whole]
    rfl
  rw [← isEntry_joinedPath directory, ← path]
  constructor
  · rintro ⟨post, others, url', split', same, sentTo, parts, entry⟩
    rw [sent] at same
    cases same
    rw [addressed] at sentTo
    cases sentTo
    rw [found] at parts
    cases parts
    exact entry
  · intro entry
    exact ⟨_, rest, url, split, sent, addressed, found, entry⟩

end LegacyPage

end

/-! ## A delete that leaves its action -/

namespace LegacyPage

def escapeHost : Host where
  name := "lab"
  url := "https://fw.lab"

def escapeUuid : Str := "../../../core/firmware/reboot"

def escapeBody : List (Str × Json) := [("action", .str "delete"), ("uuid", .str escapeUuid)]

def escapeEntry : AuditEntry where
  ts := "2026-01-01T00:00:00Z"
  user := "qa"
  action := "nat.delete"
  target := escapeUuid
  host := "lab"
  result := "ok"
  durationMs := 0
  detail := []
  payloadSha256 := []

def escapePath : Str := "/api/firewall/source_nat/delRule/" ++ escapeUuid

def escapeTrace : Trace Party :=
  let now : Clock := ⟨"2026-01-01T00:00:00Z", 0⟩
  let done : Reply := .ok (.obj [("result", .str "deleted")])
  [⟨.clock, now⟩, ⟨.post .client escapePath (.obj []), done⟩,
    ⟨.post .client "/api/firewall/source_nat/apply" (.obj []), done⟩, ⟨.clock, now⟩,
    ⟨.clock, now⟩, ⟨.append escapeEntry, .ok ()⟩]

def escapeResponse : Response :=
  (200, .obj [("ok", .bool true),
    ("data", .obj [("uuid", .str escapeUuid), ("action", .str "delete")])])

theorem escape_accepted : @AcceptedDelete Runtime.ascii escapeHost escapeBody false :=
  @AcceptedDelete.mk Runtime.ascii _ _ _ rfl (by decide) (by decide) rfl (by decide +kernel)

theorem escape_run :
    (@LegacyRoute.actionPayload Runtime.ascii _ Unit (@route Runtime.ascii .nat) escapeHost
      escapeBody "qa" false).Run () escapeTrace (.ok escapeResponse) () :=
  .ask _ (.ask _ (.ask _ (.ask _ (.ask _ (.ask _ (.refl _))))))

theorem escape_url :
    @clientUrl Runtime.ascii escapeHost escapePath =
      some ("https://fw.lab/api/core/firmware/reboot" : Str) := by
  decide +kernel

theorem delete_escapes :
    @AcceptedDelete Runtime.ascii escapeHost escapeBody false ∧
      (@LegacyRoute.actionPayload Runtime.ascii _ Unit (@route Runtime.ascii .nat) escapeHost
        escapeBody "qa" false).Run () escapeTrace (.ok escapeResponse) () ∧
      @clientUrl Runtime.ascii escapeHost escapePath =
        some ("https://fw.lab/api/core/firmware/reboot" : Str) ∧
      ¬ @SentBelow Runtime.ascii (@deleteAction Runtime.ascii .nat) escapeHost escapeTrace := by
  refine ⟨escape_accepted, escape_run, escape_url, ?_⟩
  rintro ⟨post, rest, url, split, sent, addressed, found, segment, plain, path⟩
  have first : posts escapeTrace = ⟨.client, escapePath, .obj [],
      .ok (.obj [("result", .str "deleted")])⟩ :: posts (escapeTrace.drop 2) := rfl
  rw [first] at sent
  cases sent
  rw [escape_url] at addressed
  cases addressed
  have parts : @urlsplit Runtime.ascii "https://fw.lab/api/core/firmware/reboot" [] =
      some ⟨"https", "fw.lab", "/api/core/firmware/reboot", [], []⟩ := by
    decide +kernel
  rw [parts] at found
  cases found
  have prefixed : @deleteAction Runtime.ascii .nat <+: ("/api/core/firmware/reboot" : Str) :=
    ⟨_, path.symm⟩
  exact absurd prefixed (by decide)

theorem delete_sentBelow_iff_escape :
    @SentBelow Runtime.ascii (@deleteAction Runtime.ascii .nat) escapeHost escapeTrace ↔
      Returns (@deleteAction Runtime.ascii .nat)
        (@fieldText Runtime.ascii escapeBody "uuid" (.str [])) :=
  @delete_sentBelow_iff Runtime.ascii Unit () () escapeTrace .nat escapeHost escapeBody "qa" false
    escape_accepted _ escape_run

end LegacyPage

end OpnsensePlugin
