import OpnsensePlugin.Python.Canonical
import OpnsensePlugin.Python.Sha256
import OpnsensePlugin.Writers.RenderedReadback

/-!
# Revisions

The revision of an object is the hash of its canonical text, which shows the
stored texts and not how they were rendered. The counters of an alias do not
enter it.
-/

namespace OpnsensePlugin

open Python FirewallForm

/-! ## Stored objects -/

mutual

/-- What a rendering stands for -/
def FormNode.stored : FormNode → Json
  | .leaf leaf => .str leaf.shows_
  | .group fields => .obj (storedForm fields)

def storedForm : List (Str × FormNode) → List (Str × Json)
  | [] => []
  | (name, node) :: rest => (name, node.stored) :: storedForm rest

end

/-- The fields that enter the revision -/
def configured (resource : Resource) (fields : List (Str × FormNode)) : List (Str × FormNode) :=
  if resource = .aliases then fields.filter fun entry => entry.1 ∉ aliasRuntimeFields else fields

/-- An object that a firewall returns: nested texts and options under distinct names -/
structure IsDetail (fields : List (Str × FormNode)) : Prop where
  clear : (FormNode.group fields).IsClear
  legible : AllLegible fields
  distinct : (FormNode.group fields).stored.IsForm

/-- The answer of `getItem` or `getRule` -/
def ShowsDetail (resource : Resource) (fields : List (Str × FormNode)) (answer : Json) : Prop :=
  ∃ out, answer = .obj out ∧ field out resource.spec.key = some (.obj (formJson fields))

/-- The same fields and, field by field, the same stored text -/
def SameConfiguration (resource : Resource) (first second : List (Str × FormNode)) : Prop :=
  SameForm (.obj (storedForm (configured resource first)))
    (.obj (storedForm (configured resource second)))

/-- The same text, or the same options chosen in the same order -/
def Leaf.SameChoice : Leaf → Leaf → Prop
  | .text content, .text other => content = other
  | .options choices, .options others => chosenKeys choices = chosenKeys others
  | .emptyArray, .emptyArray => True
  | _, _ => False

/-- The same fields and, field by field, the same text or the same choice -/
def SameChoices (resource : Resource) (first second : List (Str × FormNode)) : Prop :=
  ∀ name, match field (formLeaves [] (configured resource first)) name,
      field (formLeaves [] (configured resource second)) name with
    | none, none => True
    | some leaf, some other => leaf.SameChoice other
    | _, _ => False

section

variable [Runtime]

/-- `hash_payload(writer.get(uuid))` -/
def revisionOf (resource : Resource) (answer : Json) : Except Exn Str := do
  let detail ← detailOf resource answer
  hashPayload detail

/-! ## What enters a revision -/

variable {resource : Resource} {fields first second : List (Str × FormNode)} {answer : Json}

theorem selected_leaf {leaf : Leaf} (legible : leaf.IsLegible) :
    selected leaf.json = .str leaf.shows_ := by
  cases leaf with
  | text content => simp [Leaf.json, selected, Leaf.shows_]
  | options choices =>
      rw [Leaf.json, Rendering.selected_optionsJson]
      exact if_neg legible
  | emptyArray => cases legible

mutual

theorem selected_node (path : Str) : ∀ node : FormNode, node.IsClear →
    (∀ entry ∈ node.leaves path, entry.2.IsLegible) → selected node.json = node.stored
  | .leaf leaf, _, legible => selected_leaf (legible (path, leaf) List.mem_cons_self)
  | .group fields, clear, legible => by
      rw [FormNode.IsClear] at clear
      rw [FormNode.json, selected_group clear.1, FormNode.stored,
        selected_form (path ++ ".") fields clear.2 legible]

theorem selected_form (path : Str) : ∀ fields : List (Str × FormNode), AllClear fields →
    (∀ entry ∈ formLeaves path fields, entry.2.IsLegible) →
      selectedFields (formJson fields) = storedForm fields
  | [], _, _ => by simp [formJson, selectedFields, storedForm]
  | (name, node) :: rest, clear, legible => by
      rw [AllClear] at clear
      rw [formLeaves, List.forall_mem_append] at legible
      rw [formJson, selectedFields, storedForm, selected_node (path ++ name) node clear.1 legible.1,
        selected_form path rest clear.2 legible.2]

end

omit [Runtime] in
theorem storedForm_eq : storedForm fields = fields.map fun entry => (entry.1, entry.2.stored) := by
  induction fields with
  | nil => rfl
  | cons entry rest ih => rw [storedForm, ih, List.map_cons]

omit [Runtime] in
theorem storedForm_configured : storedForm (configured resource fields) =
    if resource = .aliases then (storedForm fields).filter fun (key, _) => key ∉ aliasRuntimeFields
    else storedForm fields := by
  rw [configured]
  split
  · rw [storedForm_eq, storedForm_eq, List.filter_map]
    rfl
  · rfl

/-- The canonical value of a returned object -/
theorem detailOf_eq (detail : IsDetail fields) (shown : ShowsDetail resource fields answer)
    {value : Json} (accepted : detailOf resource answer = .ok value) :
    value = .obj (storedForm (configured resource fields)) := by
  rcases shown with ⟨out, rfl, found⟩
  have clear := detail.clear
  rw [FormNode.IsClear] at clear
  have decoded : selected (.obj (formJson fields)) = .obj (storedForm fields) := by
    rw [selected_group clear.1, selected_form [] fields clear.2 detail.legible]
  rw [storedForm_configured]
  cases members : formJson fields with
  | nil =>
      rw [members] at found
      simp [detailOf, found] at accepted
  | cons entry rest =>
      rw [members] at found decoded
      simp only [detailOf, found, decoded] at accepted
      split at accepted
      · cases accepted
        rename_i aliases
        rw [if_pos aliases]
      · cases accepted
        rename_i other
        rw [if_neg other]

omit [Runtime] in
theorem IsDetail.isForm (detail : IsDetail fields) :
    (Json.obj (storedForm (configured resource fields))).IsForm := by
  have form := detail.distinct
  rw [FormNode.stored, Json.IsForm, areForms_iff] at form
  rw [Json.IsForm, areForms_iff, storedForm_configured]
  split
  · refine ⟨form.1.sublist (List.filter_sublist.map _), ?_⟩
    intro entry member
    exact form.2 entry (List.mem_of_mem_filter member)
  · exact form

/-- Two objects have one revision if and only if they have the same fields and, field by field,
the same stored text. -/
theorem revision_eq_iff {firstAnswer secondAnswer : Json} {firstRevision secondRevision : Str}
    (injective : Function.Injective Runtime.sha256)
    (once : IsDetail first) (shown : ShowsDetail resource first firstAnswer)
    (hashed : revisionOf resource firstAnswer = .ok firstRevision)
    (again : IsDetail second) (reshown : ShowsDetail resource second secondAnswer)
    (rehashed : revisionOf resource secondAnswer = .ok secondRevision) :
    firstRevision = secondRevision ↔ SameConfiguration resource first second := by
  rw [revisionOf, bind_eq_ok] at hashed rehashed
  rcases hashed with ⟨value, accepted, hashed⟩
  rcases rehashed with ⟨other, reaccepted, rehashed⟩
  rw [detailOf_eq once shown accepted] at hashed
  rw [detailOf_eq again reshown reaccepted] at rehashed
  rw [hashPayload_obj hashed, hashPayload_obj rehashed, injective.eq_iff, SameConfiguration]
  exact dumps_eq_iff once.isForm again.isForm

end

/-! ## A rule shown twice, and entries with a comma -/

namespace RevisionDemo

/-- The canonical text of the rule -/
def ruleText : Str :=
  "\x7b\"descr\":\"web\",\"interface\":\"wan,opt1\",\"source\":\x7b\"network\":\"any\"\x7d\x7d"

def ruleRevision : Str := "8dceea83f027a4ac2ed6a0fe3c0973a6456a950fc33bc899ac4743b49fb803e7"

/-- The interpreter, with a hash that is known for the rule only -/
@[reducible]
def hashing : Runtime :=
  { Runtime.ascii with
    sha256 := fun text => if text = ruleText then ruleRevision else code 'x' :: text }

theorem hashing_injective : Function.Injective hashing.sha256 := by
  have apart (text : Str) : ruleRevision ≠ code 'x' :: text := by
    intro same
    cases (List.cons.inj same).1
  intro text other same
  change (if text = ruleText then ruleRevision else code 'x' :: text) =
    if other = ruleText then ruleRevision else code 'x' :: other at same
  split at same
  · rename_i known
    split at same
    · rename_i alsoKnown
      rw [known, alsoKnown]
    · exact absurd same (apart other)
  · split at same
    · exact absurd same.symm (apart text)
    · exact (List.cons.inj same).2

def interfaces : List Choice :=
  [⟨"lan", "LAN", false, true⟩, ⟨"wan", "WAN", true, true⟩, ⟨"opt1", "DMZ", true, true⟩]

def ruleAsOptions : List (Str × FormNode) :=
  [("interface", .leaf (.options interfaces)), ("descr", .leaf (.text "web")),
    ("source", .group [("network", .leaf (.text "any"))])]

def ruleAsTexts : List (Str × FormNode) :=
  [("descr", .leaf (.text "web")), ("source", .group [("network", .leaf (.text "any"))]),
    ("interface", .leaf (.text "wan,opt1"))]

def ruleAnswer (fields : List (Str × FormNode)) : Json := .obj [("rule", .obj (formJson fields))]

theorem isDetail_options : IsDetail ruleAsOptions where
  clear := by
    refine ⟨?_, trivial, trivial, ⟨?_, trivial, trivial⟩, trivial⟩
    · intro options
      cases options
    · intro options
      cases options
  legible := by
    simp [AllLegible, ruleAsOptions, formLeaves, FormNode.leaves, Leaf.IsLegible, interfaces]
  distinct := by
    refine ⟨by decide, trivial, trivial, ⟨by decide, trivial, trivial⟩, trivial⟩

theorem isDetail_texts : IsDetail ruleAsTexts where
  clear := by
    refine ⟨?_, trivial, ⟨?_, trivial, trivial⟩, trivial, trivial⟩
    · intro options
      cases options
    · intro options
      cases options
  legible := by
    simp [AllLegible, ruleAsTexts, formLeaves, FormNode.leaves, Leaf.IsLegible]
  distinct := by
    refine ⟨by decide, trivial, ⟨by decide, trivial, trivial⟩, trivial, trivial⟩

theorem rule_revision_kept : SameConfiguration .portForward ruleAsOptions ruleAsTexts := by
  have first : @revisionOf hashing .portForward (ruleAnswer ruleAsOptions) = .ok ruleRevision := by
    rfl
  have second : @revisionOf hashing .portForward (ruleAnswer ruleAsTexts) = .ok ruleRevision := by
    rfl
  exact (@revision_eq_iff hashing .portForward ruleAsOptions ruleAsTexts _ _ _ _ hashing_injective
    isDetail_options ⟨_, rfl, rfl⟩ first isDetail_texts ⟨_, rfl, rfl⟩ second).mp rfl

/-- An alias with the entries as options -/
def aliasWith (entries : List Choice) : List (Str × FormNode) :=
  [("name", .leaf (.text "Lists")), ("content", .leaf (.options entries))]

def oneEntry : List Choice := [⟨"a,b", "a,b", true, false⟩]

def twoEntries : List Choice := [⟨"a", "a", true, false⟩, ⟨"b", "b", true, false⟩]

def aliasAnswer (entries : List Choice) : Json := .obj [("alias", .obj (formJson (aliasWith entries)))]

theorem isDetail_alias {entries : List Choice} (some : entries ≠ []) :
    IsDetail (aliasWith entries) where
  clear := by
    refine ⟨?_, trivial, trivial, trivial⟩
    intro options
    cases options
  legible := by
    simp [AllLegible, aliasWith, formLeaves, FormNode.leaves, Leaf.IsLegible, some]
  distinct := by
    have names : (["name", "content"] : List Str).Nodup := by decide
    exact ⟨names, trivial, trivial, trivial⟩

theorem comma_not_seen : IsDetail (aliasWith oneEntry) ∧ IsDetail (aliasWith twoEntries) ∧
    ShowsDetail .aliases (aliasWith oneEntry) (aliasAnswer oneEntry) ∧
    ShowsDetail .aliases (aliasWith twoEntries) (aliasAnswer twoEntries) ∧
    (∃ revision, @revisionOf Runtime.ascii .aliases (aliasAnswer oneEntry) = .ok revision ∧
      @revisionOf Runtime.ascii .aliases (aliasAnswer twoEntries) = .ok revision) ∧
    ¬ SameChoices .aliases (aliasWith oneEntry) (aliasWith twoEntries) := by
  refine ⟨isDetail_alias (by decide), isDetail_alias (by decide), ⟨_, rfl, rfl⟩, ⟨_, rfl, rfl⟩,
    ⟨_, rfl, rfl⟩, ?_⟩
  intro same
  have content := same "content"
  have keys : chosenKeys oneEntry = chosenKeys twoEntries := content
  exact absurd keys (by decide)

end RevisionDemo

end OpnsensePlugin
