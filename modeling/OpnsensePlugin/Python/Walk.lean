import OpnsensePlugin.Python.UrlPath

/-!
# Where a name leads below a directory

A name that is put behind a directory of a URL is followed segment by segment
when the URL is joined. `Returns` says of a name when the joined path is the
directory and one more segment: the moves that its segments make, a last segment
that is not a dot segment left off, end where they began.
-/

namespace Python

/-- Follow segments from a place. -/
def follow (place : List Str) (segments : List Str) : List Str := segments.foldl resolveStep place

def isDots (segment : Str) : Bool := segment = "." || segment = ".."

/-- What is followed of a name: a last segment that is no dot segment is the entry that the
name denotes. -/
def moves (segments : List Str) : List Str :=
  if isDots (segments.getLastD []) then segments else segments.dropLast

/-- The segments of a name up to its query, its fragment and the parameters of its last segment. -/
def nameSegments (name : Str) : List Str :=
  splitOn (code '/') (splitParams (referencePath name)).1

/-- The moves of a name lead from the directory back to it. A path that has lost its leading `/`
gets it again, so the directory is also reached without its empty first segment. -/
def Returns (directory name : Str) : Prop :=
  let start := splitOn (code '/') directory
  let last := follow start (moves (nameSegments name))
  last = start ∨ last = start.tail

/-- A directory whose path starts with a single `/`, with no character that ends a path and with no
dot segments -/
structure IsDirectory (directory : Str) : Prop where
  single : ∃ c rest, directory = code '/' :: c :: rest ∧ c ≠ code '/'
  clean : IsClean directory
  query : code '?' ∉ directory
  fragment : code '#' ∉ directory
  plain : ∀ segment ∈ splitOn (code '/') directory, isDots segment = false

variable {directory name segment row : Str} {place segments start : List Str} {c : CodePoint}

theorem follow_plain (plain : ∀ segment ∈ segments, isDots segment = false) :
    follow place segments = place ++ segments := by
  induction segments generalizing place with
  | nil => simp [follow]
  | cons head rest ih =>
      have first := plain head (by simp)
      simp only [isDots, Bool.or_eq_false_iff, decide_eq_false_iff_not] at first
      have later := @ih (place ++ [head]) fun segment member =>
        plain segment (List.mem_cons_of_mem head member)
      rw [follow] at later
      simp [follow, resolveStep, first, later]

theorem getLastD_concat {earlier : List Str} : (earlier ++ [row]).getLastD [] = row := by
  rw [List.getLastD_eq_getLast?, List.getLast?_concat]
  rfl

/-- Resolving the segments of a name behind a directory: the moves, and one segment more -/
theorem resolveSegments_append (plain : ∀ segment ∈ start, isDots segment = false)
    (some : segments ≠ []) :
    ∃ row, resolveSegments (start ++ segments) = follow start (moves segments) ++ [row] ∧
      (row = [] ∨ row ∈ segments) := by
  rcases List.eq_nil_or_concat segments with none | ⟨earlier, last, same⟩
  · exact absurd none some
  rw [List.concat_eq_append] at same
  subst same
  have begin : (start ++ (earlier ++ [last])).foldl resolveStep [] =
      follow start (earlier ++ [last]) := by
    have reached := @follow_plain [] start plain
    rw [follow, List.nil_append] at reached
    rw [List.foldl_append, reached, follow]
  have resolved : resolveSegments (start ++ (earlier ++ [last])) =
      if isDots last then follow start (earlier ++ [last]) ++ [[]]
      else follow start (earlier ++ [last]) := by
    have ending : (start ++ (earlier ++ [last])).getLastD [] = last := by
      rw [← List.append_assoc, getLastD_concat]
    rw [resolveSegments, begin, ending]
    rfl
  rw [resolved, moves, getLastD_concat]
  by_cases dots : isDots last = true
  · rw [if_pos dots, if_pos dots]
    exact ⟨[], rfl, .inl rfl⟩
  · rw [if_neg dots, if_neg dots, List.dropLast_concat]
    have name : last ≠ "." ∧ last ≠ ".." := by
      simpa [isDots] using dots
    have whole : follow start (earlier ++ [last]) = follow start earlier ++ [last] := by
      rw [follow, List.foldl_append]
      simp [follow, resolveStep, name]
    exact ⟨last, whole, .inr (by simp)⟩

/-! ## The joined path -/

theorem referencePath_append (directory' : IsDirectory directory) :
    referencePath (directory ++ code '/' :: name) = directory ++ code '/' :: referencePath name := by
  have slash : isUnsafeByte (code '/') = false := by decide
  have whole : kept (directory ++ code '/' :: name) = (directory ++ [code '/']) ++ kept name := by
    rw [kept, List.filter_append, directory'.clean.filter]
    simp [kept, slash]
  have apart : ∀ mark, mark ≠ code '/' → mark ∉ directory → mark ∉ directory ++ [code '/'] := by
    intro mark other absent member
    rcases List.mem_append.mp member with member | member
    · exact absent member
    · exact other (List.mem_singleton.mp member)
  rw [referencePath, whole, partition_append (apart _ (by decide) directory'.fragment),
    partition_append (apart _ (by decide) directory'.query)]
  simp [referencePath]

theorem splitParams_append :
    splitParams (directory ++ code '/' :: name) =
      (directory ++ code '/' :: (splitParams name).1, (splitParams name).2) := by
  by_cases inside : code '/' ∈ name
  · rcases exists_last_of_mem inside with ⟨front, last, rfl, clean⟩
    have whole : directory ++ code '/' :: (front ++ code '/' :: last) =
        (directory ++ code '/' :: front) ++ code '/' :: last := by
      simp
    rw [whole, splitParams, rpartition_append_cons clean, splitParams,
      rpartition_append_cons clean]
    simp
  · rw [splitParams, rpartition_append_cons inside, splitParams, rpartition_of_not_mem inside]
    simp

theorem slash_not_mem_params : code '/' ∉ (splitParams name).2 := by
  by_cases inside : code '/' ∈ name
  · rcases exists_last_of_mem inside with ⟨front, last, rfl, clean⟩
    rw [splitParams, rpartition_append_cons clean]
    exact fun member => clean (mem_of_mem_partition_getD member)
  · rw [splitParams, rpartition_of_not_mem inside]
    exact fun member => inside (mem_of_mem_partition_getD member)

/-- A path is a directory and one segment more. -/
def IsEntry (directory path : Str) : Prop :=
  ∃ segment, code '/' ∉ segment ∧ path = directory ++ code '/' :: segment

theorem rooted_withParams {path params : Str} (some : path ≠ []) :
    rooted (withParams path params) = withParams (rooted path) params := by
  cases path with
  | nil => exact absurd rfl some
  | cons first rest =>
      cases params with
      | nil => rfl
      | cons d more => by_cases slash : first = code '/' <;> simp [rooted, withParams, slash]

/-- Parameters do not change the directory of a path. -/
theorem isEntry_withParams {path params : Str} (clean : code '/' ∉ params)
    (slash : code '/' ∈ path) :
    IsEntry directory (withParams path params) ↔ IsEntry directory path := by
  rcases exists_last_of_mem slash with ⟨front, last, rfl, plain⟩
  have entry : ∀ {tail : Str}, code '/' ∉ tail →
      (IsEntry directory (front ++ code '/' :: tail) ↔ front = directory) := by
    intro tail absent
    constructor
    · rintro ⟨segment, other, same⟩
      have parted := congrArg (rpartition (code '/')) same
      rw [rpartition_append_cons absent, rpartition_append_cons other] at parted
      cases parted
      rfl
    · rintro rfl
      exact ⟨tail, absent, rfl⟩
  cases params with
  | nil => rfl
  | cons d more =>
      have whole : withParams (front ++ code '/' :: last) (d :: more) =
          front ++ code '/' :: (last ++ code ';' :: d :: more) := by
        simp [withParams]
      have absent : code '/' ∉ last ++ code ';' :: d :: more := by
        intro member
        rcases List.mem_append.mp member with member | member
        · exact plain member
        · rcases List.mem_cons.mp member with same | member
          · exact absurd same (by decide)
          · exact clean member
      rw [whole, entry absent, entry plain]

/-- The segments of a path that has been rooted -/
def rootedSegments : List Str → List Str
  | [] => [[], []]
  | [[]] => [[], []]
  | [] :: next :: rest => [] :: next :: rest
  | (c :: more) :: rest => [] :: (c :: more) :: rest

theorem rooted_resolvedPath
    (clean : ∀ segment ∈ resolveSegments segments, code '/' ∉ segment) :
    rooted (resolvedPath segments) = join [code '/'] (rootedSegments (resolveSegments segments)) := by
  rw [resolvedPath]
  generalize resolveSegments segments = resolved at clean
  have slash : ("/" : Str) = [code '/'] := rfl
  rw [slash]
  cases resolved with
  | nil => rfl
  | cons head rest =>
      cases head with
      | nil =>
          cases rest with
          | nil => rfl
          | cons next more => simp [rootedSegments, join, rooted]
      | cons c more =>
          have other : c ≠ code '/' := by
            intro same
            exact clean (c :: more) (by simp) (by simp [same])
          cases rest with
          | nil => simp [rootedSegments, join, rooted, other]
          | cons next last => simp [rootedSegments, join, rooted, other]

theorem mem_rootedSegments (member : segment ∈ rootedSegments segments) :
    segment = [] ∨ segment ∈ segments := by
  unfold rootedSegments at member
  split at member <;> simp_all

theorem splitOn_directory (directory' : IsDirectory directory) :
    ∃ c head more, splitOn (code '/') directory = [] :: (c :: head) :: more := by
  rcases directory'.single with ⟨c, rest, rfl, other⟩
  have behind : splitOn (code '/') (code '/' :: c :: rest) = [] :: splitOn (code '/') (c :: rest) := by
    simp [splitOn]
  rw [behind, splitOn, if_neg other]
  cases split : splitOn (code '/') rest with
  | nil => exact ⟨c, [], [], rfl⟩
  | cons head more => exact ⟨c, head, more, rfl⟩

theorem rootedSegments_eq {c : CodePoint} {head : Str} {more : List Str} :
    rootedSegments segments = [] :: (c :: head) :: more ↔
      segments = [] :: (c :: head) :: more ∨ segments = (c :: head) :: more := by
  unfold rootedSegments
  split <;> simp_all

/-- When the joined segments are an entry of a directory -/
theorem isEntry_resolvedPath (directory' : IsDirectory directory)
    (clean : ∀ segment ∈ resolveSegments segments, code '/' ∉ segment) :
    IsEntry directory (rooted (resolvedPath segments)) ↔
      ∃ row, resolveSegments segments = splitOn (code '/') directory ++ [row] ∨
        resolveSegments segments = (splitOn (code '/') directory).tail ++ [row] := by
  have entry : ∀ row, directory ++ code '/' :: row =
      join [code '/'] (splitOn (code '/') directory ++ [row]) := by
    intro row
    rw [join_concat splitOn_ne_nil, join_splitOn]
  have apart : ∀ segment ∈ rootedSegments (resolveSegments segments), code '/' ∉ segment := by
    intro segment member
    rcases mem_rootedSegments member with rfl | member
    · simp
    · exact clean segment member
  have some : rootedSegments (resolveSegments segments) ≠ [] := by
    unfold rootedSegments
    split <;> simp
  have parts : ∀ row, rootedSegments (resolveSegments segments) =
      splitOn (code '/') directory ++ [row] ↔
        resolveSegments segments = splitOn (code '/') directory ++ [row] ∨
          resolveSegments segments = (splitOn (code '/') directory).tail ++ [row] := by
    intro row
    rcases splitOn_directory directory' with ⟨c, head, more, same⟩
    rw [same]
    exact rootedSegments_eq
  rw [rooted_resolvedPath clean]
  constructor
  · rintro ⟨row, absent, same⟩
    refine ⟨row, (parts row).mp ?_⟩
    rw [← splitOn_join apart some, same, splitOn_append_cons, splitOn_of_not_mem absent]
  · rintro ⟨row, same⟩
    have found := (parts row).mpr same
    refine ⟨row, apart row ?_, ?_⟩
    · rw [found]
      simp
    · rw [found, entry row]

theorem resolvedPath_ne_nil : resolvedPath segments ≠ [] := by
  rw [resolvedPath]
  split
  · decide
  · rename_i some
    simpa using some

theorem slash_mem_rooted {path : Str} (some : path ≠ []) : code '/' ∈ rooted path := by
  cases path with
  | nil => exact absurd rfl some
  | cons first rest => by_cases slash : first = code '/' <;> simp [rooted, slash]

theorem isEntry_joinedPath (directory' : IsDirectory directory) :
    IsEntry directory (joinedPath (directory ++ code '/' :: name)) ↔ Returns directory name := by
  let segments := nameSegments name
  have split : splitOn (code '/') (directory ++ code '/' :: (splitParams (referencePath name)).1) =
      splitOn (code '/') directory ++ segments := splitOn_append_cons
  rcases @resolveSegments_append segments _ directory'.plain splitOn_ne_nil with
    ⟨row, resolved, known⟩
  have clean : ∀ segment ∈ resolveSegments (splitOn (code '/') directory ++ segments),
      code '/' ∉ segment := by
    intro segment member
    rcases mem_resolveSegments member with rfl | member
    · simp
    · rw [← split] at member
      exact not_mem_of_mem_splitOn member
  rw [joinedPath, referencePath_append directory', splitParams_append, split,
    rooted_withParams resolvedPath_ne_nil,
    isEntry_withParams slash_not_mem_params (slash_mem_rooted resolvedPath_ne_nil),
    isEntry_resolvedPath directory' clean, resolved, Returns]
  constructor
  · rintro ⟨entry, same | same⟩
    · exact .inl (List.append_inj' same rfl).1
    · exact .inr (List.append_inj' same rfl).1
  · rintro (same | same)
    · exact ⟨row, .inl (by rw [same])⟩
    · exact ⟨row, .inr (by rw [same])⟩

end Python
