import OpnsensePlugin.Management.BackupStore

/-!
# Histories of the backup store

From an empty directory on, whatever is called and whatever fails, the store answers as
a finite map does, and its directory holds the copies of that map.
-/

namespace OpnsensePlugin

open Python Effects

namespace Backups

section Runtime

variable [Runtime] {library : Library} {disk next : Disk} {shelf : Shelf}

/-! ## What the calls keep -/

theorem Holds.shelf_eq_none {ident : Str} (holds : Holds library disk shelf) :
    shelf ident = none ↔ field disk.backups ident = none := by
  have stored := holds.stored ident
  generalize field disk.backups ident = text at stored
  generalize shelf ident = entry at stored
  cases stored with
  | absent => exact ⟨fun _ => rfl, fun _ => rfl⟩
  | present => exact ⟨nofun, nofun⟩

/-- A key that was made when there were no copies -/
theorem Holds.keyed (holds : Holds library disk shelf) (made : Keyed disk next) :
    Holds library next shelf where
  tidy := made.drafts.trans holds.tidy
  distinct := by
    rw [made.backups]
    exact holds.distinct
  stored ident := by
    have stored := holds.stored ident
    rcases made.key with ⟨same, _⟩ | ⟨_, empty, _, _⟩
    · rw [same, made.backups]
      exact stored
    · have nothing : field disk.backups ident = none := by
        rw [empty]
        rfl
      rw [made.backups, nothing, holds.shelf_eq_none.mpr nothing]
      exact .absent
  made := by
    rcases made.key with ⟨_, same⟩ | ⟨missing, _, counted, _⟩
    · rw [same]
      exact holds.made
    · have before := holds.unmade missing
      omega
  unmade missing := by
    rcases made.key with ⟨key, same⟩ | ⟨_, _, _, known⟩
    · rw [same]
      exact holds.unmade (key ▸ missing)
    · exact absurd missing known

/-- A new copy -/
theorem Holds.stored_copy {value : Bytes} {metadata : Metadata} {payload : Bytes} {text : Str}
    (holds : Holds library disk shelf) (known : disk.key = some value) (key_length : value.length = 32)
    (canonical : IsCanonical metadata.id) (closed : Sealed library value metadata payload text) :
    Holds library { disk with backups := setField metadata.id text disk.backups }
      (Function.update shelf metadata.id (some (metadata, payload))) where
  tidy := holds.tidy
  distinct := nodup_setField holds.distinct
  stored ident := by
    by_cases same : ident = metadata.id
    · subst same
      simp only [field_setField_self, Function.update_self]
      exact .present known key_length canonical rfl closed
    · simp only [field_setField_ne same, Function.update_of_ne same]
      exact holds.stored ident
  made := holds.made
  unmade := holds.unmade

theorem Holds.created {host : Host} {reply : Download} {draw : Draw} {payload : Bytes}
    (holds : Holds library disk shelf) (created : Created library host reply draw disk payload next) :
    Holds library next
      (Function.update shelf draw.ident (some (draw.metadata library host payload, payload))) := by
  rcases created.closed with ⟨value, text, known, key_length, closed, backups⟩
  have kept : Keyed disk { next with backups := disk.backups } := ⟨rfl, created.drafts, created.key⟩
  have canonical : IsCanonical (draw.metadata library host payload).id := draw.canonical_ident
  have copied := (holds.keyed kept).stored_copy known key_length canonical closed
  have same : ({ next with backups := setField draw.ident text disk.backups } : Disk) = next := by
    rw [← backups]
  exact same ▸ copied

theorem Holds.deleted {name : Str} (holds : Holds library disk shelf) :
    Holds library { disk with backups := disk.backups.filter fun entry => entry.1 ≠ name }
      (Function.update shelf name none) where
  tidy := holds.tidy
  distinct := (List.filter_sublist.map Prod.fst).nodup holds.distinct
  stored ident := by
    by_cases same : ident = name
    · subst same
      simp only [field_filter_self, Function.update_self]
      exact .absent
    · simp only [field_filter_ne same, Function.update_of_ne same]
      exact holds.stored ident
  made := holds.made
  unmade := holds.unmade

/-! ## The finite map -/

abbrev Trace : Type := List (Event Operation Answer)

/-- What a finite map does for a call, after what happened before: a call that fails changes
nothing, and it fails for a reason. A creation fails because an operation did, in this call or an
earlier one, or because there is nothing to save. Where the scan of the directory fails, a list may
be too short. -/
inductive Serves (library : Library) (before trace : Trace) (shelf : Shelf) :
    Call → Except Exn Result → Shelf → Prop
  | created {host : Host} {reply : Download} {draw : Draw} {payload : Bytes}
      (absent : shelf draw.ident = none) (downloaded : Downloaded reply payload) :
      Serves library before trace shelf (.create host reply draw)
        (.ok (.created (draw.metadata library host payload).json))
        (Function.update shelf draw.ident (some (draw.metadata library host payload, payload)))
  | uncreated {host : Host} {reply : Download} {draw : Draw} {error : Exn}
      (reason : Faulty (· ∈ before ++ trace) ∨ ∃ value, ¬ Fit library host reply draw value) :
      Serves library before trace shelf (.create host reply draw) (.error error) shelf
  | read {ident : Json} {metadata : Metadata} {payload : Bytes}
      (found : shelf.at ident = some (metadata, payload)) :
      Serves library before trace shelf (.read ident) (.ok (.payload payload)) shelf
  | unread {ident : Json} {error : Exn} (reason : Faulty (· ∈ trace) ∨ shelf.at ident = none) :
      Serves library before trace shelf (.read ident) (.error error) shelf
  | listed {results : List Json} (lists : ScanFaulty (· ∈ trace) ∨ Lists shelf results) :
      Serves library before trace shelf .list (.ok (.listed results)) shelf
  | unlisted {error : Exn} (reason : Faulty (· ∈ trace)) :
      Serves library before trace shelf .list (.error error) shelf
  | deleted {name : Str} (found : shelf name ≠ none) :
      Serves library before trace shelf (.delete (.str name)) (.ok (.deleted name))
        (Function.update shelf name none)
  | undeleted {ident : Json} {error : Exn} (reason : Faulty (· ∈ trace) ∨ shelf.at ident = none) :
      Serves library before trace shelf (.delete ident) (.error error) shelf

/-- A created identifier is not in use. -/
def Call.Fresh (disk : Disk) : Call → Prop
  | .create _ _ draw => field disk.backups draw.ident = none
  | _ => True

/-- Every call is a call of the map. -/
theorem call_serves {call : Call} {before trace : Trace} {outcome : Except Exn Result}
    (holds : Holds library disk shelf) (fresh : call.Fresh disk)
    (blamed : Damaged disk → Faulty (· ∈ before))
    (run : (call.run library).Run disk trace outcome next) :
    ∃ later, Serves library before trace shelf call outcome later ∧ Holds library next later ∧
      KeyMade disk next ∧ (Damaged next → Faulty (· ∈ before ++ trace)) := by
  have within : ∀ event ∈ trace, event ∈ trace := fun _ mem => mem
  have earlier : Damaged disk → Faulty (· ∈ before ++ trace) := fun damaged =>
    (blamed damaged).mono fun _ mem => List.mem_append_left trace mem
  have unmade : KeyMade disk disk := .inl ⟨rfl, rfl⟩
  cases call with
  | create host reply draw =>
      rcases Action.run_bind_pure.mp run with ⟨result, started, rfl⟩
      have ended := create_spec holds.tidy holds.backups_of_key rfl within started
      cases result with
      | ok metadata =>
          rcases ended with ⟨payload, rfl, created⟩
          refine ⟨_, .created (holds.shelf_eq_none.mpr fresh) created.downloaded,
            holds.created created, created.key, ?_⟩
          rintro ⟨value, stored, wrong⟩
          rcases created.closed with ⟨other, _, known, length, _⟩
          rw [known, Option.some.injEq] at stored
          exact absurd (stored ▸ length) wrong
      | error error =>
          have later : Faulty (· ∈ trace) → Faulty (· ∈ before ++ trace) := fun fault =>
            fault.mono fun _ mem => List.mem_append_right before mem
          refine ⟨shelf, .uncreated ?_, holds.keyed ended.keyed, ended.keyed.key,
            fun damaged => (ended.whole damaged).elim later earlier⟩
          rcases ended.reason with fault | damaged | nothing
          · exact .inl (later fault)
          · exact .inl (earlier damaged)
          · exact .inr nothing
  | read ident =>
      rcases Action.run_bind_pure.mp run with ⟨result, started, rfl⟩
      have ended := read_spec holds rfl within started
      cases result with
      | ok payload =>
          rcases ended with ⟨rfl, metadata, found⟩
          exact ⟨shelf, .read found, holds, unmade, earlier⟩
      | error error =>
          rcases ended with ⟨rfl, reason⟩
          exact ⟨shelf, .unread reason, holds, unmade, earlier⟩
  | list =>
      rcases Action.run_bind_pure.mp run with ⟨result, started, rfl⟩
      have ended := list_spec holds rfl within started
      cases result with
      | ok items =>
          rcases ended with ⟨rfl, lists⟩
          exact ⟨shelf, .listed lists, holds, unmade, earlier⟩
      | error error =>
          rcases ended with ⟨rfl, reason⟩
          exact ⟨shelf, .unlisted reason, holds, unmade, earlier⟩
  | delete ident =>
      rcases Action.run_bind_pure.mp run with ⟨result, started, rfl⟩
      have ended := delete_spec holds rfl within started
      cases result with
      | ok name =>
          rcases ended with ⟨rfl, rfl, found⟩
          exact ⟨_, .deleted found, holds.deleted, .inl ⟨rfl, rfl⟩, earlier⟩
      | error error =>
          rcases ended with ⟨rfl, reason⟩
          exact ⟨shelf, .undeleted reason, holds, unmade, earlier⟩

/-! ## Histories -/

/-- A call with what happened in it -/
structure Entry where
  call : Call
  trace : Trace
  outcome : Except Exn Result

/-- Calls on the directory, one after another -/
inductive History (library : Library) : Disk → List Entry → Disk → Prop
  | nil {disk : Disk} : History library disk [] disk
  | cons {disk middle last : Disk} {entry : Entry} {rest : List Entry} (fresh : entry.call.Fresh disk)
      (run : (entry.call.run library).Run disk entry.trace entry.outcome middle)
      (more : History library middle rest last) : History library disk (entry :: rest) last

/-- The same calls on the map, after what happened before -/
inductive Replay (library : Library) : Trace → Shelf → List Entry → Shelf → Prop
  | nil {before : Trace} {shelf : Shelf} : Replay library before shelf [] shelf
  | cons {before : Trace} {shelf middle last : Shelf} {entry : Entry} {rest : List Entry}
      (serves : Serves library before entry.trace shelf entry.call entry.outcome middle)
      (more : Replay library (before ++ entry.trace) middle rest last) :
      Replay library before shelf (entry :: rest) last

theorem History.replay {before : Trace} {entries : List Entry} {last : Disk}
    (holds : Holds library disk shelf) (blamed : Damaged disk → Faulty (· ∈ before))
    (history : History library disk entries last) :
    ∃ final, Replay library before shelf entries final ∧ Holds library last final ∧
      (Damaged last → Faulty (· ∈ before ++ entries.flatMap Entry.trace)) := by
  induction history generalizing before shelf with
  | nil => exact ⟨shelf, .nil, holds, by simpa using blamed⟩
  | cons fresh run _ ih =>
      rcases call_serves holds fresh blamed run with ⟨middle, serves, kept, _, still⟩
      rcases ih kept still with ⟨final, replayed, ended, after⟩
      rw [List.append_assoc] at after
      exact ⟨final, .cons serves replayed, ended, after⟩

theorem Holds.byteLength_le (holds : Holds library disk shelf) :
    ∀ entry ∈ disk.backups, byteLength entry.2 ≤ maxEnvelope := by
  rintro ⟨name, text⟩ mem
  have stored := holds.stored name
  rw [field_of_mem holds.distinct mem] at stored
  generalize shelf name = entry at stored
  cases stored with
  | present _ _ _ _ closed => exact closed.byteLength_le

/-- The store is a finite map: its calls are those of the map, no temporary file is left, the key
is made at most once and never while there are copies, and no copy is too large to be read. -/
theorem store_is_map {entries : List Entry} {last : Disk} (history : History library {} entries last) :
    (∃ final, Replay library [] (fun _ => none) entries final) ∧
      last.drafts = [] ∧ last.made ≤ 1 ∧
      (∀ entry ∈ last.backups, byteLength entry.2 ≤ maxEnvelope) ∧
      ∀ {call : Call} {trace : Trace} {outcome : Except Exn Result} {next : Disk}, call.Fresh last →
        (call.run library).Run last trace outcome next → next.made ≠ last.made → last.backups = [] := by
  have undamaged : Damaged {} → Faulty (· ∈ ([] : Trace)) := nofun
  rcases history.replay holds_empty undamaged with ⟨final, replayed, holds, blamed⟩
  refine ⟨⟨final, replayed⟩, holds.tidy, holds.made, holds.byteLength_le, ?_⟩
  intro call trace outcome next fresh run made
  rcases call_serves holds fresh blamed run with ⟨_, _, _, ⟨_, same⟩ | ⟨_, empty, _⟩, _⟩
  · exact absurd same made
  · exact empty

end Runtime

/-! ### One copy, made and read -/

def labPayload : Bytes := [60, 111, 112, 110, 115, 101, 110, 115, 101, 47, 62]

/-- `0`, `1`, and so on -/
def counting (count : Fin 256) : Bytes := List.ofFn fun index : Fin count => index.castLE (by omega)

theorem length_counting {count : Fin 256} : (counting count).length = count := by
  simp [counting]

def labAssociated : Str :=
  "\x7b\"date\":\"2026-01-02T03:04:05+00:00\",\"format\":\"opnsense-xml\"," ++
    "\"host\":\"lab\",\"id\":\"06ef0c66-91fb-490a-9345-2fd20b1bad8e\"," ++
    "\"sha256\":\"f50ab5fc1cc9d3ae4a1a98d2be6bfb2173d34fc2bd1aa33515c11f30cd7815a8\"," ++
    "\"size\":11,\"source\":\"latest_historical_backup\"\x7d"

/-- AES-256-GCM of the payload under the key, the nonce and the metadata above -/
def labClosed : Bytes :=
  [123, 109, 166, 117, 182, 128, 172, 104, 232, 110, 169, 201, 189, 25, 168, 174, 68, 19, 180, 79,
    158, 100, 157, 195, 149, 246, 191]

def zeroTag : Bytes := List.replicate 16 0

/-- A cipher that is AES-256-GCM on the values above -/
def labCipher : Cipher where
  encrypt key nonce payload associated :=
    if (key, nonce, payload, associated) = (counting 32, counting 12, labPayload, labAssociated) then labClosed
    else payload ++ zeroTag
  decrypt key nonce closed associated :=
    if (key, nonce, closed, associated) = (counting 32, counting 12, labClosed, labAssociated) then
      some labPayload
    else if zeroTag.isSuffixOf closed then some (closed.take (closed.length - 16)) else none
  decrypt_encrypt := by
    intro key nonce payload associated _ _
    split
    · rename_i same
      rw [Prod.mk.injEq, Prod.mk.injEq, Prod.mk.injEq] at same
      rcases same with ⟨rfl, rfl, rfl, rfl⟩
      exact if_pos rfl
    · have tagged : (payload ++ zeroTag).length - 16 = payload.length := by simp [zeroTag]
      have tail : zeroTag.isSuffixOf (payload ++ zeroTag) = true := by simp
      have zero : ¬ zeroTag <:+ labClosed := by decide
      have different : payload ++ zeroTag ≠ labClosed := by
        intro same
        exact zero (same ▸ List.suffix_append payload zeroTag)
      rw [if_neg (by simp [different]), if_pos tail, tagged, List.take_left]
  length_encrypt := by
    intro key nonce payload associated
    split
    · rename_i same
      rw [Prod.mk.injEq, Prod.mk.injEq, Prod.mk.injEq] at same
      rw [same.2.2.1]
      rfl
    · simp [zeroTag]

def labLibrary : Library where
  cipher := labCipher
  parses payload := payload = labPayload
  isWord c := decide (code 'a' ≤ c ∧ c ≤ code 'z')
  readFloat _ := .nan
  depth := 8

def labHost : Host where
  name := "lab"
  url := "https://fw.example"

def labDraw : Draw where
  ident := "06ef0c66-91fb-490a-9345-2fd20b1bad8e"
  clock := ⟨2026, 1, 2, 3, 4, 5, 0⟩
  token := counting 32
  nonce := counting 12
  canonical_ident := by decide +kernel
  length_token := length_counting
  length_nonce := length_counting

def labReply : Download := .response 200 (some "11") [labPayload]

/-- Nothing fails. -/
def succeeds (_ : Trace) : (operation : Operation) → Answer operation := fun _ => none

/-- Where the creation ends -/
def labCreated : Except Exn Result × Disk :=
  (Program.replay succeeds (@Call.run Runtime.ascii labLibrary (.create labHost labReply labDraw) {})
    []).2

/-- Where reading the copy ends -/
def labRead : Except Exn Result × Disk :=
  (Program.replay succeeds (@Call.run Runtime.ascii labLibrary (.read (.str labDraw.ident))
    labCreated.2) []).2

/-- A copy was made, and its text was read. -/
def labAgrees : Except Exn Result → Except Exn Result → Bool
  | .ok (.created _), .ok (.payload payload) => payload == labPayload
  | _, _ => false

theorem lab_outcomes :
    (∃ metadata, labCreated.1 = .ok (.created metadata)) ∧ labRead.1 = .ok (.payload labPayload) := by
  have decided : labAgrees labCreated.1 labRead.1 = true := by decide +kernel
  generalize labCreated.1 = first, labRead.1 = second at decided
  rcases first with error | (metadata | payload | items | ident)
  · cases decided
  · rcases second with error | (other | payload | items | ident)
    · cases decided
    · cases decided
    · exact ⟨⟨metadata, rfl⟩, by rw [beq_iff_eq.mp decided]⟩
    all_goals cases decided
  all_goals cases decided

theorem exists_run {Request State Error α : Type} {Answer : Request → Type}
    (environment : List (Event Request Answer) → (request : Request) → Answer request)
    (action : Action Request Answer State Error α) (before : State) :
    ∃ trace, action.Run before trace ((action before).replay environment []).2.1
      ((action before).replay environment []).2.2 := by
  rcases Program.replay_yields environment (action before) [] with ⟨trace, _, run⟩
  exact ⟨trace, run⟩

theorem store_is_map_lab :
    ∃ created read metadata last, @History Runtime.ascii labLibrary {}
        [⟨.create labHost labReply labDraw, created, .ok (.created metadata)⟩,
          ⟨.read (.str labDraw.ident), read, .ok (.payload labPayload)⟩] last ∧
      last.drafts = [] ∧ last.made ≤ 1 := by
  rcases lab_outcomes with ⟨⟨metadata, made⟩, found⟩
  rcases exists_run succeeds (@Call.run Runtime.ascii labLibrary (.create labHost labReply labDraw)) {}
    with ⟨created, creates⟩
  rcases exists_run succeeds (@Call.run Runtime.ascii labLibrary (.read (.str labDraw.ident)))
    labCreated.2 with ⟨read, reads⟩
  have first : (@Call.run Runtime.ascii labLibrary (.create labHost labReply labDraw)).Run {}
      created (.ok (.created metadata)) labCreated.2 := by
    rw [← made, labCreated]
    exact creates
  have second : (@Call.run Runtime.ascii labLibrary (.read (.str labDraw.ident))).Run labCreated.2
      read (.ok (.payload labPayload)) labRead.2 := by
    rw [← found, labRead]
    exact reads
  have history : @History Runtime.ascii labLibrary {}
      [⟨.create labHost labReply labDraw, created, .ok (.created metadata)⟩,
        ⟨.read (.str labDraw.ident), read, .ok (.payload labPayload)⟩] labRead.2 :=
    @History.cons Runtime.ascii _ _ _ _ _ _ rfl first
      (@History.cons Runtime.ascii _ _ _ _ _ _ trivial second (@History.nil Runtime.ascii _ _))
  have holds := @store_is_map Runtime.ascii _ _ _ history
  exact ⟨created, read, metadata, labRead.2, history, holds.2.1, holds.2.2.1⟩

end Backups

end OpnsensePlugin
