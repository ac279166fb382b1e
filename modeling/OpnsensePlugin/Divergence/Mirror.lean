import Mathlib.Data.List.Dedup
import Mathlib.Data.List.ReduceOption
import Mathlib.Data.Prod.Lex
import OpnsensePlugin.Divergence

/-!
# The mirror law of the divergence

Exchanging the nodes exchanges the two values of every entry and changes nothing
else, the texts aside: each section compares the nodes alike, and the entries
of the one section that lists the nodes one after the other have different keys.
-/

namespace OpnsensePlugin

open Effects Python

/-- An entry without its text -/
abbrev Facts := Str × Str × Severity × Json × Json

namespace Divergence

def facts (entry : Divergence) : Facts :=
  (entry.category, entry.key, entry.severity, entry.a, entry.b)

/-- The facts of an entry with its values exchanged -/
def mirrored (entry : Divergence) : Facts :=
  (entry.category, entry.key, entry.severity, entry.b, entry.a)

end Divergence

/-- The same entries in the same order, but for exchanged values -/
def Mirrors (mirror out : List Divergence) : Prop :=
  mirror.map Divergence.facts = out.map Divergence.mirrored

/-- A section that can be read from either node -/
def Reflects (diff : Json → Json → Except Exn (List Divergence)) : Prop :=
  ∀ a b out, diff a b = .ok out → ∃ mirror, diff b a = .ok mirror ∧ Mirrors mirror out

section Sections

variable {category key detail text : Str} {severity : Severity} {a b : Json}
  {front back left right : List Divergence} {α : Type} {items : List α}

theorem Mirrors.append (first : Mirrors left front) (second : Mirrors right back) :
    Mirrors (left ++ right) (front ++ back) := by
  simp only [Mirrors, List.map_append] at first second ⊢
  rw [first, second]

theorem eqOrDiff_mirror :
    (eqOrDiff category key b a severity text).map Divergence.facts =
      (eqOrDiff category key a b severity detail).map Divergence.mirrored := by
  rw [eqOrDiff, eqOrDiff, Json.same_comm]
  split <;> rfl

/-- Entries that mirror each other item by item -/
theorem Mirrors.filterMap {entry other : α → Option Divergence}
    (each : ∀ item ∈ items, (other item).map Divergence.facts =
      (entry item).map Divergence.mirrored) :
    Mirrors (items.filterMap other) (items.filterMap entry) := by
  rw [Mirrors, List.map_filterMap, List.map_filterMap]
  exact List.filterMap_congr each

theorem Mirrors.toList {entry other : Option Divergence}
    (same : other.map Divergence.facts = entry.map Divergence.mirrored) :
    Mirrors other.toList entry.toList := by
  have mirrored := @Mirrors.filterMap Unit [()] (fun _ => entry) (fun _ => other) fun _ _ => same
  cases entry <;> cases other <;> simpa using mirrored

theorem reduceOption_cons {entry : Option Divergence} {rest : List (Option Divergence)} :
    (entry :: rest).reduceOption = entry.toList ++ rest.reduceOption := by
  cases entry <;> rfl

theorem diffFields_mirror {compared : List (Str × Severity × Str)} {first second : Fields} :
    Mirrors (diffFields category compared second first)
      (diffFields category compared first second) :=
  Mirrors.filterMap fun _ _ => eqOrDiff_mirror

theorem diffSystem_reflects : Reflects diffSystem := by
  intro a b out found
  simp only [diffSystem, bind_eq_ok, pure_eq_ok] at found
  rcases found with ⟨aSys, readA, bSys, readB, rfl⟩
  refine ⟨diffFields "system" systemFields bSys aSys, ?_, diffFields_mirror⟩
  simp [diffSystem, readA, readB]

theorem diffHasync_reflects : Reflects diffHasync := by
  intro a b out found
  simp only [diffHasync, bind_eq_ok, pure_eq_ok] at found
  rcases found with ⟨aH, readA, bH, readB, rfl⟩
  refine ⟨diffFields "hasync" hasyncFields bH aH, ?_, diffFields_mirror⟩
  simp [diffHasync, readA, readB]

/-! ## CARP -/

variable [Runtime]

omit [Runtime] in
theorem isRolePair_swap {first second : Str} :
    isRolePair b a first second = isRolePair a b second first :=
  Bool.and_comm _ _

theorem diffRoles_mirror :
    (diffRoles b a).map Divergence.facts = (diffRoles a b).map Divergence.mirrored := by
  have pairs : (isRolePair b a "master" "backup" || isRolePair b a "backup" "master" ||
      isRolePair b a "disabled" "disabled") =
        (isRolePair a b "master" "backup" || isRolePair a b "backup" "master" ||
          isRolePair a b "disabled" "disabled") := by
    rw [@isRolePair_swap a b, @isRolePair_swap a b, @isRolePair_swap a b]
    cases isRolePair a b "backup" "master" <;> cases isRolePair a b "master" "backup" <;> rfl
  rw [diffRoles, diffRoles, pairs, @isRolePair_swap a b "master" "master"]
  split <;> rfl

omit [Runtime] in
theorem diffDemotion_mirror :
    (diffDemotion b a).map Divergence.facts = (diffDemotion a b).map Divergence.mirrored := by
  rw [diffDemotion, diffDemotion, Bool.and_comm]
  split
  · rfl
  · exact eqOrDiff_mirror

theorem carpEntries_mirror {aC bC : Fields} : Mirrors (carpEntries bC aC) (carpEntries aC bC) :=
  ((Mirrors.toList diffRoles_mirror).append (Mirrors.toList eqOrDiff_mirror)).append
    (Mirrors.toList diffDemotion_mirror)

omit [Runtime] in
@[simp]
theorem requireHashable_eq_ok {value : Json} {done : Unit} :
    requireHashable value = .ok done ↔ value.isHashable = true := by
  simp [requireHashable]

theorem diffCarp_reflects : Reflects diffCarp := by
  intro a b out found
  simp only [diffCarp, bind_eq_ok] at found
  rcases found with ⟨aC, readA, bC, readB, found⟩
  by_cases silent : (!(fieldD aC "role" .null).truthy || !(fieldD bC "role" .null).truthy) = true
  · rw [if_pos silent, pure_eq_ok] at found
    subst found
    rw [Bool.or_comm] at silent
    refine ⟨[], ?_, rfl⟩
    simp only [diffCarp, bind_eq_ok]
    refine ⟨bC, readB, aC, readA, ?_⟩
    rw [if_pos silent]
    rfl
  · rw [if_neg silent] at found
    rw [Bool.or_comm] at silent
    simp only [bind_eq_ok, pure_eq_ok, requireHashable_eq_ok] at found
    rcases found with ⟨_, hashA, _, hashB, rfl⟩
    refine ⟨carpEntries bC aC, ?_, carpEntries_mirror⟩
    simp only [diffCarp, bind_eq_ok]
    refine ⟨bC, readB, aC, readA, ?_⟩
    rw [if_neg silent]
    simp only [bind_eq_ok, requireHashable_eq_ok]
    exact ⟨(), hashB, (), hashA, rfl⟩

/-! ## Rows by name -/

variable {names others : List RowName} {rowsA rowsB : NamedRows}

omit [Runtime] in
/-- Sorting a set does not depend on the order of its items. -/
theorem sortedNames_congr (perm : names.Perm others) (sorted : List RowName)
    (found : sortedNames names = .ok sorted) : sortedNames others = .ok sorted := by
  have dedup := perm.dedup
  have all : names.all Option.isSome = others.all Option.isSome := by
    rw [Bool.eq_iff_iff, List.all_eq_true, List.all_eq_true]
    simp only [perm.mem_iff]
  have texts : sortedSet names.reduceOption = sortedSet others.reduceOption :=
    sorted_eq_iff_perm.mpr (perm.filterMap id).dedup
  rw [sortedNames] at found ⊢
  rw [← dedup.length_eq, ← all, ← texts]
  split at found
  · rename_i short
    rw [if_pos short]
    have same : names.dedup = others.dedup := by
      generalize names.dedup = first at dedup short
      rcases first with _ | ⟨name, _ | ⟨next, rest⟩⟩
      · exact dedup.nil_eq
      · exact (List.perm_singleton.mp dedup.symm).symm
      · simp at short
    rw [← same]
    exact found
  · rename_i long
    rw [if_neg long]
    exact found

omit [Runtime] in
theorem bothNames_comm (found : bothNames rowsA rowsB = .ok names) :
    bothNames rowsB rowsA = .ok names :=
  sortedNames_congr List.perm_append_comm names found

omit [Runtime] in
theorem diffServices_reflects : Reflects diffServices := by
  intro a b out found
  simp only [diffServices, bind_eq_ok, pure_eq_ok] at found
  rcases found with ⟨itemsA, readA, itemsB, readB, names, sorted, rfl⟩
  refine ⟨names.filterMap (serviceEntry itemsB itemsA), ?_, ?_⟩
  · simp only [diffServices, bind_eq_ok, pure_eq_ok]
    exact ⟨itemsB, readB, itemsA, readA, names, bothNames_comm sorted, rfl⟩
  · exact Mirrors.filterMap fun _ _ => eqOrDiff_mirror

omit [Runtime] in
theorem diffGateways_reflects : Reflects diffGateways := by
  intro a b out found
  simp only [diffGateways, bind_eq_ok, pure_eq_ok] at found
  rcases found with ⟨rowsA, readA, rowsB, readB, names, sorted, rfl⟩
  refine ⟨names.filterMap (gatewayEntry rowsB rowsA), ?_, ?_⟩
  · simp only [diffGateways, bind_eq_ok, pure_eq_ok]
    exact ⟨rowsB, readB, rowsA, readA, names, bothNames_comm sorted, rfl⟩
  · exact Mirrors.filterMap fun _ _ => eqOrDiff_mirror

omit [Runtime] in
theorem diffLink_mirror {name : RowName} {entry : Option Divergence}
    (found : diffLink name a b = .ok entry) :
    ∃ other, diffLink name b a = .ok other ∧
      other.map Divergence.facts = entry.map Divergence.mirrored := by
  rw [diffLink] at found
  rw [diffLink, @Json.same_comm b a]
  split at found
  · rename_i equal
    rw [pure_eq_ok] at found
    subst found
    exact ⟨none, by simp [equal], rfl⟩
  · rename_i differ
    simp only [bind_eq_ok, requireHashable_eq_ok] at found
    rcases found with ⟨_, hashA, _, hashB, found⟩
    rw [if_neg differ]
    simp only [bind_eq_ok, requireHashable_eq_ok]
    rw [Bool.and_comm] at found
    by_cases states : (isLinkState b && isLinkState a) = true
    · rw [if_pos states, pure_eq_ok] at found
      subst found
      refine ⟨eqOrDiff "interfaces" (shownName name) b a .warning
        (("Interface '" : Str) ++ nameText name ++ ("' link state differs." : Str)), ?_, ?_⟩
      · refine ⟨(), hashB, (), hashA, ?_⟩
        rw [if_pos states]
        rfl
      · exact eqOrDiff_mirror
    · rw [if_neg states, pure_eq_ok] at found
      subst found
      refine ⟨none, ⟨(), hashB, (), hashA, ?_⟩, rfl⟩
      rw [if_neg states]
      rfl

omit [Runtime] in
theorem mapM_mirrors {entry other : α → Except Exn (Option Divergence)}
    {entries : List (Option Divergence)}
    (each : ∀ item found, entry item = .ok found → ∃ opposite, other item = .ok opposite ∧
      opposite.map Divergence.facts = found.map Divergence.mirrored)
    (done : items.mapM entry = .ok entries) :
    ∃ opposites, items.mapM other = .ok opposites ∧
      Mirrors opposites.reduceOption entries.reduceOption := by
  induction items generalizing entries with
  | nil =>
      cases done
      exact ⟨[], rfl, rfl⟩
  | cons item rest ih =>
      simp only [List.mapM_cons, bind_eq_ok, pure_eq_ok] at done ⊢
      rcases done with ⟨first, found, others, done, rfl⟩
      rcases each item first found with ⟨opposite, answered, same⟩
      rcases ih done with ⟨opposites, remaining, mirrors⟩
      refine ⟨opposite :: opposites, ⟨opposite, answered, opposites, remaining, rfl⟩, ?_⟩
      rw [reduceOption_cons, reduceOption_cons]
      exact (Mirrors.toList same).append mirrors

omit [Runtime] in
theorem diffInterfaces_reflects : Reflects diffInterfaces := by
  intro a b out found
  simp only [diffInterfaces, bind_eq_ok, pure_eq_ok] at found
  rcases found with ⟨rowsA, readA, rowsB, readB, names, sorted, entries, done, rfl⟩
  rcases mapM_mirrors (fun _ _ => diffLink_mirror) done with ⟨opposites, answered, mirrors⟩
  refine ⟨opposites.reduceOption, ?_, mirrors⟩
  simp only [diffInterfaces, bind_eq_ok, pure_eq_ok]
  exact ⟨rowsB, readB, rowsA, readA, names, bothNames_comm sorted, opposites, answered, rfl⟩

/-! ## Certificates -/

omit [Runtime] in
theorem mem_sortedNames {sorted : List RowName} (found : sortedNames names = .ok sorted)
    (name : RowName) : name ∈ sorted ↔ name ∈ names := by
  rw [sortedNames] at found
  split at found
  · cases found
    exact List.mem_dedup
  · split at found
    · rename_i texts
      cases found
      rw [List.all_eq_true] at texts
      simp only [sortedSet, List.mem_map, List.mem_insertionSort, List.mem_dedup,
        List.reduceOption_mem_iff]
      constructor
      · rintro ⟨text, member, rfl⟩
        exact member
      · intro member
        rcases Option.isSome_iff_exists.mp (texts name member) with ⟨text, rfl⟩
        exact ⟨text, member, rfl⟩
    · cases found

omit [Runtime] in
/-- The names of a set can be sorted if all of them are texts or all are `None`. -/
theorem sortedNames_returns {keyed : Bool} (names : List RowName)
    (kind : ∀ name ∈ names, name.isSome = keyed) :
    ∃ sorted, sortedNames names = .ok sorted := by
  rw [sortedNames]
  split
  · exact ⟨_, rfl⟩
  · rename_i long
    cases keyed with
    | true =>
        rw [if_pos (List.all_eq_true.mpr kind)]
        exact ⟨_, rfl⟩
    | false =>
        have none : ∀ name ∈ names.dedup, name = Option.none := by
          intro name member
          simpa using kind name (List.mem_dedup.mp member)
        have single := List.nodup_dedup names
        generalize names.dedup = distinct at none single long
        rcases distinct with _ | ⟨first, _ | ⟨second, rest⟩⟩
        · simp at long
        · simp at long
        · have same : first = second := by
            rw [none first (by simp), none second (by simp)]
          simp [same] at single

end Sections

/-! ## The order of the entries -/

namespace Facts

def sortKey (facts : Facts) : ℕ ×ₗ Str ×ₗ Str :=
  toLex (facts.2.2.1.rank, toLex (facts.1, facts.2.1))

end Facts

theorem Divergence.le_iff {first second : Divergence} :
    first.le second = true ↔ first.facts.sortKey ≤ second.facts.sortKey := by
  simp only [Divergence.le, Facts.sortKey, Divergence.facts, Prod.Lex.toLex_le_toLex,
    Bool.or_eq_true, Bool.and_eq_true, decide_eq_true_eq, strLe_eq_true_iff]
  rcases eq_or_ne first.category second.category with same | differ
  · simp [same]
  · simp [differ, le_iff_lt_or_eq]

def sortedFacts (facts : List Facts) : List Facts :=
  facts.insertionSort fun first second => first.sortKey ≤ second.sortKey

theorem sortEntries_facts (out : List Divergence) :
    (sortEntries out).map Divergence.facts = sortedFacts (out.map Divergence.facts) :=
  List.map_insertionSort _ _ _ _ fun _ _ _ _ => Divergence.le_iff

theorem sortEntries_mirrored (out : List Divergence) :
    (sortEntries out).map Divergence.mirrored = sortedFacts (out.map Divergence.mirrored) :=
  List.map_insertionSort _ _ _ _ fun _ _ _ _ => Divergence.le_iff

theorem sortEntries_pairwise (out : List Divergence) :
    (sortEntries out).Pairwise fun first second => first.le second = true := by
  have sorted := List.pairwise_insertionSort
    (fun first second : Facts => first.sortKey ≤ second.sortKey) (out.map Divergence.facts)
  rw [← sortedFacts, ← sortEntries_facts, List.pairwise_map] at sorted
  exact sorted.imp Divergence.le_iff.mpr

/-- The same entries in the same order once they are sorted, but for exchanged values -/
def SortsAlike (mirror out : List Divergence) : Prop :=
  sortedFacts (mirror.map Divergence.facts) = sortedFacts (out.map Divergence.mirrored)

theorem Mirrors.append_sortsAlike {left front right back : List Divergence}
    (first : Mirrors left front) (second : SortsAlike right back) :
    SortsAlike (left ++ right) (front ++ back) := by
  simp only [SortsAlike, List.map_append] at second ⊢
  rw [show left.map Divergence.facts = front.map Divergence.mirrored from first]
  exact insertionSort_append second

/-- One list after the other can be exchanged if no two entries have the same key. -/
theorem sortsAlike_of_perm {mirror out : List Divergence}
    (perm : (out.map Divergence.mirrored).Perm (mirror.map Divergence.facts))
    (apart : ∀ first ∈ out, ∀ second ∈ out, first.category = second.category →
      first.key = second.key → first = second) : SortsAlike mirror out := by
  refine (insertionSort_of_perm perm ?_).symm
  intro first listed second member below above
  rcases List.mem_map.mp listed with ⟨entry, found, rfl⟩
  rcases List.mem_map.mp member with ⟨other, met, rfl⟩
  have same := congrArg ofLex (le_antisymm below above)
  have names := congrArg ofLex (congrArg Prod.snd same)
  have category : entry.category = other.category := congrArg Prod.fst names
  have key : entry.key = other.key := congrArg Prod.snd names
  rw [apart entry found other met category key]

end OpnsensePlugin
