import OpnsensePlugin.Effects.Triples
import OpnsensePlugin.Management.Envelope
import OpnsensePlugin.Python.Fields

/-!
# The backup store is a finite map

A shelf says which copies there are. Every run of the store, whatever fails in it, is
a run of the shelf: calls that return change and read it as they say, and calls that
fail leave it alone.
-/

namespace OpnsensePlugin

open Python Effects

namespace Backups

/-- The copies by their identifiers -/
abbrev Shelf : Type := Str → Option (Metadata × Bytes)

def Shelf.at (shelf : Shelf) : Json → Option (Metadata × Bytes)
  | .str name => shelf name
  | _ => none

def IsCanonical (ident : Str) : Prop := (parseUuid ident).map uuidText = some ident

section Runtime

variable [Runtime]

/-- The text is the copy under the key. -/
inductive Sealed (library : Library) (key : Bytes) (metadata : Metadata) (payload : Bytes) : Str → Prop
  | intro (nonce : Bytes) (associated : Str) (nonce_length : nonce.length = 12)
      (authenticated : canonical metadata.json = .ok associated) (short : metadata.Short)
      (size : metadata.size = payload.length) (digest : metadata.sha256 = payloadDigest payload)
      (valid : checkXml library payload = .ok ()) (small : payload.length ≤ maxXml) :
      Sealed library key metadata payload (envelope metadata.json nonce
        (library.cipher.encrypt key nonce payload associated)).dumps

/-- What stands in a file, and what on the shelf -/
inductive Stored (library : Library) (key : Option Bytes) (ident : Str) :
    Option Str → Option (Metadata × Bytes) → Prop
  | absent : Stored library key ident none none
  | present {value : Bytes} {metadata : Metadata} {payload : Bytes} {text : Str}
      (known : key = some value) (key_length : value.length = 32) (canonical : IsCanonical ident)
      (named : metadata.id = ident) (closed : Sealed library value metadata payload text) :
      Stored library key ident (some text) (some (metadata, payload))

/-- The directory holds the copies of the shelf and nothing else. -/
structure Holds (library : Library) (disk : Disk) (shelf : Shelf) : Prop where
  tidy : disk.drafts = []
  distinct : (disk.backups.map Prod.fst).Nodup
  stored : ∀ ident, Stored library disk.key ident (field disk.backups ident) (shelf ident)
  made : disk.made ≤ 1
  unmade : disk.key = none → disk.made = 0

theorem holds_empty {library : Library} : Holds library {} fun _ => none where
  tidy := rfl
  distinct := List.nodup_nil
  stored _ := .absent
  made := Nat.zero_le 1
  unmade _ := rfl

variable {library : Library} {disk next : Disk} {shelf : Shelf}

theorem Sealed.byteLength_le {key : Bytes} {metadata : Metadata} {payload : Bytes} {text : Str}
    (closed : Sealed library key metadata payload text) : byteLength text ≤ maxEnvelope := by
  cases closed with
  | intro nonce associated nonce_length _ short _ _ _ small =>
      apply byteLength_envelope_le short nonce_length
      rw [library.cipher.length_encrypt]
      omega

/-- What `_load` makes of the text -/
theorem Sealed.read {key : Bytes} {metadata : Metadata} {payload : Bytes} {text : Str}
    (closed : Sealed library key metadata payload text) (key_length : key.length = 32) :
    ∃ nonce ciphertext, parseEnvelope library metadata.id text = .ok (metadata.json, nonce, ciphertext) ∧
      openEnvelope library key metadata.json nonce ciphertext = .ok payload := by
  have small := closed.byteLength_le
  cases closed with
  | intro nonce associated nonce_length authenticated short size digest valid _ =>
      exact ⟨nonce, _, parseEnvelope_envelope short.fits nonce_length small,
        openEnvelope_encrypt key_length nonce_length authenticated size digest valid⟩

/-- Without a key there are no copies. -/
theorem Holds.backups_of_key (holds : Holds library disk shelf) (missing : disk.key = none) :
    disk.backups = [] := by
  cases files : disk.backups with
  | nil => rfl
  | cons first rest =>
      have found : field disk.backups first.1 = some first.2 := by
        rcases first with ⟨name, text⟩
        rw [files, field_cons, if_pos rfl]
      have stored := holds.stored first.1
      rw [found, missing] at stored
      generalize shelf first.1 = entry at stored
      cases stored with
      | present known => cases known

/-! ## Steps that may fail -/

variable {allowed : Event Operation Answer → Prop}

/-- An operation may fail. -/
def Faulty (allowed : Event Operation Answer → Prop) : Prop :=
  ∃ operation count, allowed ⟨operation, some count⟩

omit [Runtime] in
theorem Faulty.mono {permitted : Event Operation Answer → Prop} (fault : Faulty allowed)
    (within : ∀ event, allowed event → permitted event) : Faulty permitted := by
  rcases fault with ⟨operation, count, able⟩
  exact ⟨operation, count, within _ able⟩

/-- The scan of the directory may fail. -/
def ScanFaulty (allowed : Event Operation Answer → Prop) : Prop :=
  ∃ count, allowed ⟨.scan, some count⟩

/-- The call failed because an operation did, and it changed nothing. -/
def Blamed (allowed : Event Operation Answer → Prop) (disk : Disk) (_ : Exn) (state : Disk) : Prop :=
  state = disk ∧ Faulty allowed

omit [Runtime] in
theorem ask_spec {operation : Operation} : Action.Triple allowed (· = disk)
    (Action.ask operation : Store (Option Nat))
    (fun answer state => state = disk ∧ allowed ⟨operation, answer⟩) (Blamed allowed disk) :=
  .ask fun _ _ same able => ⟨same, able⟩

omit [Runtime] in
theorem attempt_spec {operation : Operation} {error : Exn} :
    Action.Triple allowed (· = disk) (attempt operation error) (fun _ state => state = disk)
      (Blamed allowed disk) := by
  refine ask_spec.bind ?_
  intro answer
  cases answer with
  | none => exact .pure fun _ both => both.1
  | some count => exact .raise fun _ both => ⟨both.1, _, _, both.2⟩

omit [Runtime] in
theorem perform_spec {operation : Operation} : Action.Triple allowed (· = disk) (perform operation)
    (fun _ state => state = disk) (Blamed allowed disk) :=
  attempt_spec

omit [Runtime] in
theorem pinned_spec : Action.Triple allowed (· = disk) pinned (fun _ state => state = disk)
    (Blamed allowed disk) :=
  attempt_spec

omit [Runtime] in
theorem record_spec {action ident : Str} : Action.Triple allowed (· = disk) (record action ident)
    (fun _ state => state = disk) (Blamed allowed disk) :=
  attempt_spec

/-- The call failed because an operation did or for the reason, and it changed nothing. -/
def Refused (allowed : Event Operation Answer → Prop) (reason : Prop) (disk : Disk) (_ : Exn)
    (state : Disk) : Prop :=
  state = disk ∧ (Faulty allowed ∨ reason)

omit [Runtime] in
theorem Blamed.refused {reason : Prop} {error : Exn} {state : Disk}
    (blamed : Blamed allowed disk error state) : Refused allowed reason disk error state :=
  ⟨blamed.1, .inl blamed.2⟩

omit [Runtime] in
theorem refused {α : Type} {pre : Disk → Prop} {action : Store α} {post : α → Disk → Prop}
    {reason : Prop} (triple : Action.Triple allowed pre action post (Blamed allowed disk)) :
    Action.Triple allowed pre action post (Refused allowed reason disk) :=
  triple.weaken (fun _ _ holds => holds) fun _ _ => Blamed.refused

omit [Runtime] in
/-- Code that goes on with what it finds in the directory -/
theorem readState_spec {α : Type} {action : Disk → Store α} {post : α → Disk → Prop}
    {failed : Exn → Disk → Prop}
    (next : Action.Triple allowed (· = disk) (action disk) post failed) :
    Action.Triple allowed (· = disk) (Action.readState >>= action) post failed := by
  have found : Action.Triple allowed (· = disk) (Action.readState : Store Disk)
      (fun found state => found = disk ∧ state = disk) failed :=
    .readState fun _ same => ⟨same, same⟩
  refine found.bind fun found => .assuming ?_
  rintro rfl
  exact next

omit [Runtime] in
theorem ofExcept_spec {α : Type} {result : Except Exn α} {value : α} {failed : Exn → Disk → Prop}
    (returned : result = .ok value) :
    Action.Triple allowed (· = disk) (Action.ofExcept result : Store α)
      (fun found state => found = value ∧ state = disk) failed := by
  rw [returned]
  exact .ofExcept fun _ same => ⟨rfl, same⟩

omit [Runtime] in
theorem path_spec {ident : Json} : Action.Triple allowed (· = disk) (path ident)
    (fun name state => state = disk ∧ ident = .str name ∧ IsCanonical name)
    (Refused allowed (∀ name, ident = .str name → ¬ IsCanonical name) disk) := by
  have other : ∀ {value : Json}, (∀ name, value ≠ .str name) →
      ∀ name, value = .str name → ¬ IsCanonical name :=
    fun different name same => absurd same (different name)
  cases ident with
  | str text =>
      simp only [path]
      split
      · rename_i canonical
        refine (refused pinned_spec).bind fun _ => ?_
        refine (refused perform_spec).bind fun _ => ?_
        exact .pure fun _ same => ⟨same, rfl, canonical⟩
      · rename_i wrong
        refine .raise fun _ same => ⟨same, .inr ?_⟩
        rintro name ⟨⟩
        exact wrong
  | _ => exact .raise fun _ same => ⟨same, .inr (other nofun)⟩

omit [Runtime] in
theorem readKey_spec : Action.Triple allowed (· = disk) readKey
    (fun value state => state = disk ∧ disk.key = some value ∧ value.length = 32)
    (Refused allowed (∀ value, disk.key = some value → value.length ≠ 32) disk) := by
  refine (refused ask_spec).bind fun answer => ?_
  cases answer with
  | some count => exact .raise fun _ both => ⟨both.1, .inl ⟨_, _, both.2⟩⟩
  | none =>
      refine Action.Triple.require (readState_spec ?_) fun _ both => both.1
      cases found : disk.key with
      | none => exact .raise fun _ same => ⟨same, .inr nofun⟩
      | some stored =>
          simp only
          split
          · rename_i wrong
            refine .raise fun _ same => ⟨same, .inr ?_⟩
            rintro value ⟨⟩ whole
            rw [List.length_take] at wrong
            omega
          · rename_i right
            rw [List.length_take] at right
            have whole : stored.take 33 = stored := List.take_of_length_le (by omega)
            rw [whole]
            exact .pure fun _ same => ⟨same, rfl, by omega⟩

omit [Runtime] in
/-- `_key()` -/
theorem key_none_spec : Action.Triple allowed (· = disk) (key none)
    (fun value state => state = disk ∧ disk.key = some value ∧ value.length = 32)
    (Refused allowed (∀ value, disk.key = some value → value.length ≠ 32) disk) := by
  refine (refused pinned_spec).bind fun _ => ?_
  refine (refused perform_spec).bind fun _ => ?_
  exact readKey_spec

omit [Runtime] in
theorem key_spec {value : Bytes} (known : disk.key = some value) (key_length : value.length = 32) :
    Action.Triple allowed (· = disk) (key none) (fun found state => found = value ∧ state = disk)
      (Blamed allowed disk) := by
  refine key_none_spec.weaken ?_ ?_
  · rintro found state ⟨same, stored, _⟩
    rw [known, Option.some.injEq] at stored
    exact ⟨stored.symm, same⟩
  · rintro error state ⟨same, fault | wrong⟩
    · exact ⟨same, fault⟩
    · exact absurd key_length (wrong _ known)

/-- `_path` of a copy -/
theorem named_spec {ident : Json} (holds : Holds library disk shelf) :
    Action.Triple allowed (· = disk) (path ident) (fun name state => ident = .str name ∧ state = disk)
      (Refused allowed (shelf.at ident = none) disk) := by
  have missing : (∀ name, ident = .str name → ¬ IsCanonical name) → shelf.at ident = none := by
    intro wrong
    cases ident with
    | str name =>
        have stored := holds.stored name
        rw [Shelf.at]
        generalize field disk.backups name = text at stored
        generalize shelf name = entry at stored
        cases stored with
        | absent => rfl
        | present _ _ canonical => exact absurd canonical (wrong name rfl)
    | _ => rfl
  refine path_spec.weaken (fun _ _ both => ⟨both.2.1, both.1⟩) ?_
  rintro error state ⟨same, fault | wrong⟩
  · exact ⟨same, .inl fault⟩
  · exact ⟨same, .inr (missing wrong)⟩

/-- `_load` of a copy -/
theorem load_spec {ident : Json} (holds : Holds library disk shelf) :
    Action.Triple allowed (· = disk) (load library ident)
      (fun result state => state = disk ∧
        ∃ metadata payload, shelf.at ident = some (metadata, payload) ∧ result = (metadata.json, payload))
      (Refused allowed (shelf.at ident = none) disk) := by
  refine (named_spec holds).bind fun name => .assuming ?_
  rintro rfl
  refine Action.Triple.handle (?_ : Action.Triple _ _ _ _ (Refused allowed (shelf.at (.str name) = none) disk))
    ?_
  · refine (refused perform_spec).bind fun _ => readState_spec ?_
    have stored := holds.stored name
    rw [Shelf.at]
    generalize field disk.backups name = text at stored
    generalize shelf name = entry at stored
    cases stored with
    | absent => exact .raise fun _ same => ⟨same, .inr rfl⟩
    | present known key_length _ named closed =>
        subst named
        rcases closed.read key_length with ⟨nonce, ciphertext, parsed, opened⟩
        refine (ofExcept_spec parsed).bind fun found => .assuming ?_
        rintro rfl
        refine (refused (key_spec known key_length)).bind fun value => .assuming ?_
        rintro rfl
        refine (ofExcept_spec opened).bind fun payload => .assuming ?_
        rintro rfl
        exact .pure fun _ same => ⟨same, _, _, rfl, rfl⟩
  · intro error
    split
    · exact .raise fun _ both => both
    · split
      · exact .raise fun _ both => both
      · exact .raise fun _ both => both

/-! ## Listing -/

/-- The items are the metadata of all copies, each once. -/
def Lists (shelf : Shelf) (results : List Json) : Prop :=
  ∃ items : List Metadata, results = items.map Metadata.json ∧ (items.map Metadata.id).Nodup ∧
    ∀ metadata, metadata ∈ items ↔ ∃ payload, shelf metadata.id = some (metadata, payload)

theorem Holds.id_eq {name : Str} {metadata : Metadata} {payload : Bytes}
    (holds : Holds library disk shelf) (found : shelf name = some (metadata, payload)) :
    metadata.id = name := by
  have stored := holds.stored name
  rw [found] at stored
  generalize field disk.backups name = text at stored
  cases stored with
  | present _ _ _ named _ => exact named

/-- The names of the files are those of the copies. -/
theorem Holds.mem_names {name : Str} (holds : Holds library disk shelf) :
    name ∈ disk.backups.map Prod.fst ↔ ∃ metadata payload, shelf name = some (metadata, payload) := by
  have stored := holds.stored name
  constructor
  · intro mem
    rcases List.mem_map.mp mem with ⟨⟨_, text⟩, inside, rfl⟩
    rw [field_of_mem holds.distinct inside] at stored
    generalize shelf _ = entry at stored
    cases stored with
    | present => exact ⟨_, _, rfl⟩
  · rintro ⟨metadata, payload, known⟩
    rw [known] at stored
    cases found : field disk.backups name with
    | none =>
        rw [found] at stored
        cases stored
    | some text => exact List.mem_map.mpr ⟨(name, text), mem_of_field found, rfl⟩

omit [Runtime] in
theorem scan_spec : Action.Triple allowed (· = disk) scan
    (fun names state => (names = disk.backups.map Prod.fst ∨ ScanFaulty allowed ∧ names = []) ∧
      state = disk) (Blamed allowed disk) := by
  refine ask_spec.bind fun answer => ?_
  cases answer with
  | none =>
      refine Action.Triple.require (readState_spec ?_) fun _ both => both.1
      exact .pure fun _ same => ⟨.inl rfl, same⟩
  | some count =>
      cases count with
      | zero => exact .pure fun _ both => ⟨.inr ⟨⟨_, both.2⟩, rfl⟩, both.1⟩
      | succ _ => exact .raise fun _ both => ⟨both.1, _, _, both.2⟩

theorem loadAll_spec {names : List Str} (holds : Holds library disk shelf)
    (known : ∀ name ∈ names, ∃ metadata payload, shelf name = some (metadata, payload)) :
    Action.Triple allowed (· = disk) (loadAll library names)
      (fun results state => (∃ items : List Metadata, results = items.map Metadata.json ∧
        items.map Metadata.id = names ∧
        ∀ metadata ∈ items, ∃ payload, shelf metadata.id = some (metadata, payload)) ∧ state = disk)
      (Blamed allowed disk) := by
  induction names with
  | nil => exact .pure fun _ same => ⟨⟨[], rfl, rfl, nofun⟩, same⟩
  | cons name rest ih =>
      rcases known name List.mem_cons_self with ⟨metadata, payload, found⟩
      have loaded : Action.Triple allowed (· = disk) (load library (.str name))
          (fun result state => result = (metadata.json, payload) ∧ state = disk)
          (Blamed allowed disk) := by
        refine (load_spec holds).weaken ?_ ?_
        · rintro result state ⟨same, other, bytes, there, rfl⟩
          rw [Shelf.at, found] at there
          cases there
          exact ⟨rfl, same⟩
        · rintro error state ⟨same, fault | absent⟩
          · exact ⟨same, fault⟩
          · exact absurd (found.symm.trans absent) nofun
      refine loaded.bind fun result => .assuming ?_
      rintro rfl
      refine (ih fun other mem => known other (List.mem_cons_of_mem _ mem)).bind fun more => .assuming ?_
      rintro ⟨items, rfl, rfl, each⟩
      have own := holds.id_eq found
      refine .pure fun _ same => ⟨⟨metadata :: items, rfl, ?_, ?_⟩, same⟩
      · rw [List.map_cons, own]
      · rw [List.forall_mem_cons, own]
        exact ⟨⟨payload, found⟩, each⟩

/-- The metadata in the order in which `list` returns it -/
def newestFirst (items : List Metadata) : List Metadata :=
  items.insertionSort fun first second => strLe second.date first.date = true

omit [Runtime] in
theorem mapM_dateOf {items : List Metadata} :
    (items.map Metadata.json).mapM dateOf = .ok (items.map Metadata.date) := by
  induction items with
  | nil => rfl
  | cons item rest ih =>
      have date : dateOf item.json = .ok item.date := rfl
      rw [List.map_cons, List.mapM_cons, date, ih]
      rfl

omit [Runtime] in
theorem sort_dates {items : List Metadata} :
    (((items.map Metadata.json).zip (items.map Metadata.date)).insertionSort
      fun first second => strLe second.2 first.2 = true).map Prod.fst =
        (newestFirst items).map Metadata.json := by
  have pairs : (items.map Metadata.json).zip (items.map Metadata.date) =
      items.map fun item => (item.json, item.date) := by
    rw [List.zip_map']
  have moved : (newestFirst items).map (fun item => (item.json, item.date)) =
      (items.map fun item => (item.json, item.date)).insertionSort
        fun first second => strLe second.2 first.2 = true :=
    List.map_insertionSort _ _ _ _ fun _ _ _ _ => Iff.rfl
  rw [pairs, ← moved, List.map_map]
  rfl

/-- `list()` -/
theorem list_spec (holds : Holds library disk shelf) :
    Action.Triple allowed (· = disk) (list library)
      (fun results state => state = disk ∧ (ScanFaulty allowed ∨ Lists shelf results))
      (Blamed allowed disk) := by
  refine pinned_spec.bind fun _ => scan_spec.bind fun names => .assuming fun scanned => ?_
  let sorted := names.insertionSort fun first second => strLe (first ++ ".enc") (second ++ ".enc") = true
  have perm : sorted.Perm names := List.perm_insertionSort _ names
  have known : ∀ name ∈ sorted, ∃ metadata payload, shelf name = some (metadata, payload) := by
    intro name mem
    rcases scanned with rfl | ⟨_, rfl⟩
    · exact holds.mem_names.mp (perm.subset mem)
    · cases perm.subset mem
  refine (loadAll_spec holds known).bind fun results => .assuming ?_
  rintro ⟨items, rfl, ids, each⟩
  refine (ofExcept_spec mapM_dateOf).bind fun dates => .assuming ?_
  rintro rfl
  refine .pure fun _ same => ⟨same, ?_⟩
  rcases scanned with rfl | ⟨fault, _⟩
  · refine .inr ⟨newestFirst items, sort_dates, ?_, ?_⟩
    · have order : (newestFirst items).Perm items := List.perm_insertionSort _ items
      have once := holds.distinct
      rw [← perm.nodup_iff, ← ids] at once
      exact (order.map _).nodup_iff.mpr once
    · intro metadata
      have order : (newestFirst items).Perm items := List.perm_insertionSort _ items
      rw [order.mem_iff]
      refine ⟨each metadata, ?_⟩
      rintro ⟨payload, found⟩
      have named : metadata.id ∈ items.map Metadata.id := by
        rw [ids, perm.mem_iff, holds.mem_names]
        exact ⟨_, _, found⟩
      rcases List.mem_map.mp named with ⟨other, mem, same⟩
      rcases each other mem with ⟨bytes, there⟩
      rw [same, found, Option.some.injEq, Prod.mk.injEq] at there
      rw [there.1]
      exact mem
  · exact .inl fault

/-! ## Reading and deleting -/

/-- `read(ident)` -/
theorem read_spec {ident : Json} (holds : Holds library disk shelf) :
    Action.Triple allowed (· = disk) (read library ident)
      (fun bytes state => state = disk ∧ ∃ metadata, shelf.at ident = some (metadata, bytes))
      (Refused allowed (shelf.at ident = none) disk) := by
  refine (named_spec holds).bind fun name => .assuming ?_
  rintro rfl
  refine (refused record_spec).bind fun _ => (load_spec holds).bind fun result => ?_
  refine .pure ?_
  rintro state ⟨same, metadata, payload, found, rfl⟩
  exact ⟨same, metadata, found⟩

/-- `delete(ident)` -/
theorem delete_spec {ident : Json} (holds : Holds library disk shelf) :
    Action.Triple allowed (· = disk) (delete library ident)
      (fun name state => state = { disk with backups := disk.backups.filter fun entry => entry.1 ≠ name } ∧
        ident = .str name ∧ shelf name ≠ none)
      (Refused allowed (shelf.at ident = none) disk) := by
  refine (named_spec holds).bind fun name => .assuming ?_
  rintro rfl
  refine (refused record_spec).bind fun _ => ?_
  have loaded : Action.Triple allowed (· = disk) (load library (.str name))
      (fun _ state => shelf name ≠ none ∧ state = disk)
      (Refused allowed (shelf.at (.str name) = none) disk) := by
    refine (load_spec holds).weaken ?_ fun _ _ both => both
    rintro result state ⟨same, metadata, payload, found, _⟩
    have there : shelf name = some (metadata, payload) := found
    exact ⟨by rw [there]; nofun, same⟩
  refine loaded.bind fun _ => .assuming fun there => ?_
  have removed : Action.Triple allowed (· = disk)
      (Action.handle
        (do
          pinned
          perform .unlink
          Action.modifyState fun disk =>
            { disk with backups := disk.backups.filter fun entry => entry.1 ≠ name } : Store Unit)
        fun error =>
          if isOsError error then Action.raise (backupError "No se pudo eliminar el respaldo." 503)
          else Action.raise error)
      (fun _ state =>
        state = { disk with backups := disk.backups.filter fun entry => entry.1 ≠ name })
      (Refused allowed (shelf.at (.str name) = none) disk) := by
    refine Action.Triple.handle ?_ (?_ : ∀ error, Action.Triple _ (Blamed allowed disk error) _ _ _)
    · refine pinned_spec.bind fun _ => perform_spec.bind fun _ => .modifyState ?_
      rintro state rfl
      rfl
    · intro error
      split
      · exact .raise fun _ blamed => blamed.refused
      · exact .raise fun _ blamed => blamed.refused
  exact removed.bind fun _ => .pure fun _ same => ⟨same, rfl, there⟩

/-! ## Creating -/

/-- The key is the one that was there, or it was made while there were no copies. -/
def KeyMade (disk state : Disk) : Prop :=
  state.key = disk.key ∧ state.made = disk.made ∨
    disk.key = none ∧ disk.backups = [] ∧ state.made = disk.made + 1 ∧ state.key ≠ none

/-- Only the key may have been made. -/
structure Keyed (disk state : Disk) : Prop where
  backups : state.backups = disk.backups
  drafts : state.drafts = disk.drafts
  key : KeyMade disk state

omit [Runtime] in
theorem Keyed.refl : Keyed disk disk := ⟨rfl, rfl, .inl ⟨rfl, rfl⟩⟩

/-- The key file does not hold a key. -/
def Damaged (disk : Disk) : Prop := ∃ value, disk.key = some value ∧ value.length ≠ 32

/-- The call failed because an operation did or for the reason, and only the key may have been
made. The file holds no key only if it held none before or an operation failed. -/
structure Unmade (allowed : Event Operation Answer → Prop) (reason : Prop) (disk : Disk) (_ : Exn)
    (state : Disk) : Prop where
  keyed : Keyed disk state
  reason : Faulty allowed ∨ reason
  whole : Damaged state → Faulty allowed ∨ Damaged disk

omit [Runtime] in
theorem Keyed.unmade {reason : Prop} {error : Exn} {state : Disk} (kept : Keyed disk state)
    (fault : Faulty allowed) : Unmade allowed reason disk error state :=
  ⟨kept, .inl fault, fun _ => .inl fault⟩

omit [Runtime] in
theorem Unmade.because {reason wider : Prop} {error : Exn} {state : Disk}
    (unmade : Unmade allowed reason disk error state) (because : reason → wider) :
    Unmade allowed wider disk error state :=
  ⟨unmade.keyed, unmade.reason.imp_right because, unmade.whole⟩

omit [Runtime] in
theorem keyed {α : Type} {pre : Disk → Prop} {action : Store α} {post : α → Disk → Prop}
    {reason : Prop} (triple : Action.Triple allowed pre action post (Blamed allowed disk)) :
    Action.Triple allowed pre action post (Unmade allowed reason disk) := by
  refine triple.weaken (fun _ _ holds => holds) ?_
  rintro error state ⟨rfl, fault⟩
  exact Keyed.refl.unmade fault

/-- The key file is there, or it holds the token. -/
def HasKey (token : Bytes) (disk state : Disk) : Prop :=
  state.key = disk.key ∧ disk.key ≠ none ∨ state.key = some token

omit [Runtime] in
theorem makeKey_spec {token : Bytes} {reason : Prop} (unused : disk.key = none → disk.backups = []) :
    Action.Triple allowed (· = disk) (makeKey token)
      (fun _ state => Keyed disk state ∧ HasKey token disk state) (Unmade allowed reason disk) := by
  refine (keyed perform_spec).bind fun _ => readState_spec ?_
  split
  · rename_i known
    refine .pure ?_
    rintro state rfl
    exact ⟨.refl, .inl ⟨rfl, Option.isSome_iff_ne_none.mp known⟩⟩
  · rename_i missing
    have none : disk.key = none := by simpa using missing
    let opened : Disk := { disk with key := some [], made := disk.made + 1 }
    have makes : Action.Triple allowed (· = disk)
        (Action.modifyState fun disk => { disk with key := some [], made := disk.made + 1 } : Store Unit)
        (fun _ state => state = opened) (Unmade allowed reason disk) := by
      refine .modifyState ?_
      rintro state rfl
      rfl
    have made : ∀ {stored : Option Bytes}, stored ≠ Option.none →
        Keyed disk { opened with key := stored } :=
      fun written => ⟨rfl, rfl, .inr ⟨none, unused none, rfl, written⟩⟩
    have asked : Action.Triple allowed (· = opened) (Action.ask .writeKey : Store (Option Nat))
        (fun answer state => state = opened ∧ allowed ⟨.writeKey, answer⟩)
        (Unmade allowed reason disk) := .ask fun _ _ same able => ⟨same, able⟩
    refine makes.bind fun _ => asked.bind fun answer => ?_
    cases answer with
    | none =>
        refine .modifyState ?_
        rintro state ⟨rfl, _⟩
        exact ⟨made nofun, .inr rfl⟩
    | some written =>
        have partly : Action.Triple allowed
            (fun state => state = opened ∧ allowed ⟨.writeKey, some written⟩)
            (Action.modifyState fun disk => { disk with key := some (token.take written) } : Store Unit)
            (fun _ state => Keyed disk state ∧ Faulty allowed) (Unmade allowed reason disk) := by
          refine .modifyState ?_
          rintro state ⟨rfl, fault⟩
          exact ⟨made nofun, _, _, fault⟩
        exact partly.bind fun _ => .raise fun _ both => both.1.unmade both.2

omit [Runtime] in
theorem keyExists_spec : Action.Triple allowed (· = disk) keyExists
    (fun found state => state = disk ∧ (Faulty allowed ∨ found = disk.key.isSome) ∧
      (found = true → disk.key ≠ none)) (Blamed allowed disk) := by
  refine ask_spec.bind fun answer => ?_
  cases answer with
  | none =>
      refine Action.Triple.require (readState_spec ?_) fun _ both => both.1
      exact .pure fun _ same => ⟨same, .inr rfl, Option.isSome_iff_ne_none.mp⟩
  | some count =>
      cases count with
      | zero => exact .pure fun _ both => ⟨both.1, .inl ⟨_, _, both.2⟩, nofun⟩
      | succ _ => exact .raise fun _ both => ⟨both.1, _, _, both.2⟩

omit [Runtime] in
/-- `_key(create=True)` -/
theorem key_some_spec {token : Bytes} (token_length : token.length = 32)
    (unused : disk.key = none → disk.backups = []) :
    Action.Triple allowed (· = disk) (key (some token))
      (fun value state => state.key = some value ∧ value.length = 32 ∧ Keyed disk state)
      (Unmade allowed (Damaged disk) disk) := by
  have readsKey : Action.Triple allowed (fun state => Keyed disk state ∧ HasKey token disk state)
      readKey (fun value state => state.key = some value ∧ value.length = 32 ∧ Keyed disk state)
      (Unmade allowed (Damaged disk) disk) := by
    refine .each fun state ⟨made, there⟩ => readKey_spec.weaken ?_ ?_
    · rintro value later ⟨rfl, known, length⟩
      exact ⟨known, length, made⟩
    · rintro error later ⟨rfl, fault | wrong⟩
      · exact made.unmade fault
      · have damaged : Damaged disk := by
          rcases there with ⟨same, known⟩ | written
          · rcases Option.ne_none_iff_exists'.mp known with ⟨value, stored⟩
            exact ⟨value, stored, wrong value (same.trans stored)⟩
          · exact absurd token_length (wrong token written)
        exact ⟨made, .inr damaged, fun _ => .inr damaged⟩
  refine (keyed pinned_spec).bind fun _ => (keyed perform_spec).bind fun _ => ?_
  refine (keyed keyExists_spec).bind fun known => ?_
  cases known with
  | true =>
      refine readsKey.require ?_
      rintro state ⟨rfl, _, there⟩
      exact ⟨.refl, .inl ⟨rfl, there rfl⟩⟩
  | false =>
      refine .each fun state ⟨same, found, _⟩ => ?_
      subst same
      refine (keyed scan_spec).bind fun names => ?_
      cases names with
      | nil => exact ((makeKey_spec unused).bind fun _ => readsKey).require fun _ both => both.2
      | cons name rest =>
          -- Copies without a key: the question for the key failed.
          have fault : ∀ later, ((name :: rest = state.backups.map Prod.fst ∨
              ScanFaulty allowed ∧ name :: rest = []) ∧ later = state) → Faulty allowed := by
            rintro later ⟨listed | ⟨_, empty⟩, _⟩
            · rcases found with fault | missing
              · exact fault
              · have none : state.key = none := by simpa using missing.symm
                rw [unused none] at listed
                cases listed
            · cases empty
          have refusing : ∀ error : Exn, Action.Triple allowed
              (fun later => (name :: rest = state.backups.map Prod.fst ∨
                ScanFaulty allowed ∧ name :: rest = []) ∧ later = state)
              (Action.raise error : Store Unit) (fun _ _ => False)
              (Unmade allowed (Damaged state) state) := by
            intro error
            refine .raise fun later both => ?_
            rcases both.2 with rfl
            exact Keyed.refl.unmade (fault _ both)
          exact (refusing _).bind fun _ => .each fun _ never => never.elim

omit [Runtime] in
/-- `create` from the temporary file on; the file is gone at the end. -/
theorem save_spec {ident : Str} {text : Except Exn Str} (tidy : disk.drafts = []) :
    Action.Triple allowed (· = disk) (save ident text)
      (fun _ state => ∃ written, text = .ok written ∧
        state = { disk with backups := setField ident written disk.backups })
      (Refused allowed (∀ written, text ≠ .ok written) disk) := by
  let drafted : Disk := { disk with drafts := [ident] }
  let Unsaved (_ : Exn) (state : Disk) : Prop :=
    (state = disk ∨ state = drafted) ∧ (Faulty allowed ∨ ∀ written, text ≠ .ok written)
  have early : ∀ {α : Type} {pre : Disk → Prop} {action : Store α} {post : α → Disk → Prop},
      Action.Triple allowed pre action post (Blamed allowed disk) →
        Action.Triple allowed pre action post Unsaved :=
    fun triple => triple.weaken (fun _ _ holds => holds) fun _ _ blamed =>
      ⟨.inl blamed.1, .inl blamed.2⟩
  have late : ∀ {α : Type} {pre : Disk → Prop} {action : Store α} {post : α → Disk → Prop},
      Action.Triple allowed pre action post (Blamed allowed drafted) →
        Action.Triple allowed pre action post Unsaved :=
    fun triple => triple.weaken (fun _ _ holds => holds) fun _ _ blamed =>
      ⟨.inr blamed.1, .inl blamed.2⟩
  refine Action.Triple.finallyDo (?_ : Action.Triple _ _ _ (fun _ state => ∃ written,
    text = .ok written ∧ state = { disk with backups := setField ident written disk.backups }) Unsaved)
    ?_ ?_
  · refine Action.Triple.handle ?_ (?_ : ∀ error, Action.Triple _ (Unsaved error) _ _ _)
    · refine (early perform_spec).bind fun _ => readState_spec ?_
      have first : (decide (ident ∈ disk.drafts) : Bool) = false := by simp [tidy]
      rw [first]
      have drafting : Action.Triple allowed (· = disk)
          (Action.modifyState fun disk => { disk with drafts := disk.drafts ++ [ident] } : Store Unit)
          (fun _ state => state = drafted) Unsaved := by
        refine .modifyState ?_
        rintro state rfl
        simp [drafted, tidy]
      refine Action.Triple.bind (.pure fun _ same => same) fun _ => drafting.bind fun _ => ?_
      cases text with
      | error error =>
          have failing : Action.Triple allowed (· = drafted)
              (Action.ofExcept (.error error) : Store Str) (fun _ _ => False) Unsaved :=
            .ofExcept fun _ same => ⟨.inr same, .inr nofun⟩
          exact failing.bind fun _ => .each fun _ never => never.elim
      | ok written =>
          refine (ofExcept_spec rfl).bind fun found => .assuming ?_
          rintro rfl
          refine (late perform_spec).bind fun _ => (late pinned_spec).bind fun _ =>
            (late perform_spec).bind fun _ => .modifyState ?_
          rintro state rfl
          exact ⟨_, rfl, by simp [drafted, tidy]⟩
    · intro error
      split
      · exact .raise fun _ both => both
      · exact .raise fun _ both => both
  · intro _
    refine .modifyState ?_
    rintro state ⟨written, known, rfl⟩
    exact ⟨written, known, by simp [tidy]⟩
  · intro _
    refine .modifyState ?_
    rintro state ⟨rfl | rfl, reason⟩
    · refine ⟨?_, reason⟩
      rw [tidy, List.filter_nil, ← tidy]
    · have empty : [ident].filter (fun name => decide (name ≠ ident)) = [] := by simp
      refine ⟨?_, reason⟩
      simp only [drafted]
      rw [empty, ← tidy]

/-! ### What is downloaded -/

omit [Runtime] in
theorem checkXml_small {payload : Bytes} (valid : checkXml library payload = .ok ()) :
    payload.length ≤ maxXml := by
  simp only [checkXml] at valid
  split at valid
  · cases valid
  · rename_i sized
    simp only [Bool.or_eq_true, decide_eq_true_eq, not_or, Nat.not_lt] at sized
    exact sized.2

/-- The answer's body -/
def Downloaded (reply : Download) (payload : Bytes) : Prop :=
  ∃ contentLength chunks, reply = .response 200 contentLength chunks ∧ payload = chunks.flatten

omit [Runtime] in
theorem joinChunks_ok {size : Nat} {chunks : List Bytes} {payload : Bytes}
    (joined : joinChunks size chunks = .ok payload) : payload = chunks.flatten := by
  induction chunks generalizing size payload with
  | nil =>
      cases joined
      rfl
  | cons chunk rest ih =>
      rw [joinChunks] at joined
      split at joined
      · cases joined
      · cases more : joinChunks (size + chunk.length) rest with
        | error error =>
            rw [more] at joined
            cases joined
        | ok tail =>
            rw [more] at joined
            cases joined
            rw [List.flatten_cons, ih more]

omit [Runtime] in
theorem receive_ok {reply : Download} {payload : Bytes} (received : receive reply = .ok payload) :
    Downloaded reply payload := by
  cases reply with
  | timeout => cases received
  | failed => cases received
  | response status contentLength chunks =>
      simp only [receive, bind_eq_ok, raiseIf_eq_ok] at received
      rcases received with ⟨_, _, _, good, _, _, _, _, joined⟩
      have whole : status = 200 := by simpa using good
      subst whole
      exact ⟨contentLength, chunks, rfl, joinChunks_ok joined⟩

theorem download_ok {host : Host} {reply : Download} {payload : Bytes}
    (downloaded : download library host reply = .ok payload) :
    Downloaded reply payload ∧ checkXml library payload = .ok () := by
  simp only [download, bind_eq_ok, raiseIf_eq_ok] at downloaded
  rcases downloaded with ⟨_, _, _, _, found, received, _, valid, returned⟩
  cases returned
  exact ⟨receive_ok received, valid⟩

omit [Runtime] in
theorem Draw.short {host : Host} {draw : Draw} {payload : Bytes} (small : payload.length ≤ maxXml) :
    (draw.metadata library host payload).Short where
  id := by
    rcases Option.map_eq_some_iff.mp draw.canonical_ident with ⟨value, _, same⟩
    rw [Draw.metadata, ← same]
    exact length_uuidText_le
  date := length_isoformat_le
  host := List.length_take_le 80 _
  sha256 := length_payloadDigest.le
  size := by
    have below : maxXml < 10 ^ 8 := by decide
    simp only [Draw.metadata]
    omega

/-- The copy that `create` added -/
structure Created (library : Library) (host : Host) (reply : Download) (draw : Draw) (disk : Disk)
    (payload : Bytes) (next : Disk) : Prop where
  downloaded : Downloaded reply payload
  closed : ∃ value text, next.key = some value ∧ value.length = 32 ∧
    Sealed library value (draw.metadata library host payload) payload text ∧
    next.backups = setField draw.ident text disk.backups
  drafts : next.drafts = disk.drafts
  key : KeyMade disk next

/-- There is something to save under the key: a configuration was downloaded, and it can be
written down with its description. -/
def Fit (library : Library) (host : Host) (reply : Download) (draw : Draw) (value : Bytes) : Prop :=
  ∃ payload associated text, download library host reply = .ok payload ∧
    canonical (draw.metadata library host payload).json = .ok associated ∧
    canonical (envelope (draw.metadata library host payload).json draw.nonce
      (library.cipher.encrypt value draw.nonce payload associated)) = .ok text

/-- Nothing can be saved: the key is damaged, or there is nothing to save. -/
def Unfit (library : Library) (host : Host) (reply : Download) (draw : Draw) (disk : Disk) : Prop :=
  Damaged disk ∨ ∃ value, ¬ Fit library host reply draw value

/-- `create(host)` -/
theorem create_spec {host : Host} {reply : Download} {draw : Draw} (tidy : disk.drafts = [])
    (unused : disk.key = none → disk.backups = []) :
    Action.Triple allowed (· = disk) (create library host reply draw)
      (fun result state => ∃ payload, result = (draw.metadata library host payload).json ∧
        Created library host reply draw disk payload state)
      (Unmade allowed (Unfit library host reply draw disk) disk) := by
  have fails : ∀ {state : Disk} {α β : Type} {error : Exn} {next : α → Store β} {post : β → Disk → Prop},
      (∀ error, Unmade allowed (Unfit library host reply draw disk) disk error state) →
        Action.Triple allowed (· = state) (Action.ofExcept (.error error) >>= next) post
          (Unmade allowed (Unfit library host reply draw disk) disk) := by
    intro state α β error next post unmade
    have failing : Action.Triple allowed (· = state) (Action.ofExcept (.error error) : Store α)
        (fun _ _ => False) (Unmade allowed (Unfit library host reply draw disk) disk) :=
      .ofExcept fun _ same => same ▸ unmade error
    exact failing.bind fun _ => .each fun _ never => never.elim
  refine (keyed pinned_spec).bind fun _ => (keyed record_spec).bind fun _ => ?_
  cases received : download library host reply with
  | error error =>
      refine fails fun _ => ⟨.refl, .inr (.inr ⟨[], ?_⟩), .inr⟩
      rintro ⟨payload, _, _, downloaded, _⟩
      rw [received] at downloaded
      cases downloaded
  | ok payload =>
      rcases download_ok received with ⟨downloaded, valid⟩
      have small := checkXml_small valid
      refine (ofExcept_spec rfl).bind fun payload => .assuming ?_
      rintro rfl
      have keyRead : Action.Triple allowed (· = disk) (key (some draw.token))
          (fun value state => state.key = some value ∧ value.length = 32 ∧ Keyed disk state)
          (Unmade allowed (Unfit library host reply draw disk) disk) :=
        (key_some_spec draw.length_token unused).weaken (fun _ _ holds => holds)
          fun _ _ unmade => unmade.because .inl
      refine keyRead.bind fun value => .each ?_
      rintro state ⟨known, length, kept⟩
      have whole : ¬ Damaged state := by
        rintro ⟨other, stored, wrong⟩
        rw [known, Option.some.injEq] at stored
        exact wrong (stored ▸ length)
      have unfit : ¬ Fit library host reply draw value →
          ∀ error, Unmade allowed (Unfit library host reply draw disk) disk error state :=
        fun nothing _ => ⟨kept, .inr (.inr ⟨value, nothing⟩), fun damaged => absurd damaged whole⟩
      cases authenticated : canonical (draw.metadata library host payload).json with
      | error error =>
          refine fails (unfit ?_)
          rintro ⟨other, _, _, downloaded, encoded, _⟩
          rw [received, Except.ok.injEq] at downloaded
          subst downloaded
          rw [authenticated] at encoded
          cases encoded
      | ok associated =>
          refine (ofExcept_spec rfl).bind fun associated => .assuming ?_
          rintro rfl
          have named : Action.Triple allowed (· = state) (path (.str draw.ident))
              (fun name later => name = draw.ident ∧ later = state)
              (Unmade allowed (Unfit library host reply draw disk) disk) := by
            refine path_spec.weaken ?_ ?_
            · rintro name later ⟨same, ⟨⟩, _⟩
              exact ⟨rfl, same⟩
            · rintro error later ⟨rfl, fault | wrong⟩
              · exact kept.unmade fault
              · exact absurd draw.canonical_ident (wrong _ rfl)
          refine named.bind fun name => .assuming ?_
          rintro rfl
          have saved := @save_spec state allowed draw.ident (canonical (envelope
            (draw.metadata library host payload).json draw.nonce
            (library.cipher.encrypt value draw.nonce payload associated))) (kept.drafts.trans tidy)
          refine (saved.weaken (fun _ _ holds => holds) ?_).bind fun _ => .pure ?_
          · rintro error later ⟨rfl, fault | unwritten⟩
            · exact kept.unmade fault
            · refine unfit ?_ error
              rintro ⟨other, found, text, downloaded, encoded, written⟩
              rw [received, Except.ok.injEq] at downloaded
              subst downloaded
              rw [authenticated, Except.ok.injEq] at encoded
              subst encoded
              exact unwritten text written
          · rintro later ⟨written, encoded, rfl⟩
            refine ⟨payload, rfl, downloaded, ?_, kept.drafts, kept.key⟩
            have text : written = (envelope (draw.metadata library host payload).json draw.nonce
                (library.cipher.encrypt value draw.nonce payload associated)).dumps := by
              rw [canonical] at encoded
              split at encoded
              · exact (Except.ok.inj encoded).symm
              · cases encoded
            subst text
            exact ⟨value, _, known, length,
              .intro _ _ draw.length_nonce authenticated (Draw.short small) rfl rfl valid small,
              congrArg (setField draw.ident _) kept.backups⟩

end Runtime

end Backups

end OpnsensePlugin
