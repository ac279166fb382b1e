import OpnsensePlugin.Python.Split
import OpnsensePlugin.Python.Url

/-!
# The path of a joined URL

`urljoin` with a reference that starts with a single `/` keeps the scheme and
the network location of the base. The path of the result is the path of the
reference with its dot segments resolved, up to its query and its fragment.
-/

namespace Python

/-- A text with which `urlsplit` does not interfere -/
def IsClean (text : Str) : Prop := ∀ c ∈ text, isUnsafeByte c = false

instance (text : Str) : Decidable (IsClean text) :=
  inferInstanceAs (Decidable (∀ c ∈ text, isUnsafeByte c = false))

/-- A text of a network location -/
def IsNetloc (text : Str) : Prop := ∀ c ∈ text, isNetlocEnd c = false

/-- A scheme that `urlsplit` finds again and `urlunparse` sets before a network location -/
structure IsScheme (scheme : Str) : Prop where
  head : scheme.head?.any isAsciiAlpha = true
  chars : scheme.all isSchemeChar = true
  lower : scheme.map asciiLower = scheme
  netloc : scheme ∈ usesNetloc

section Clean

variable {text front back : Str} {c separator : CodePoint}

theorem IsClean.append (first : IsClean front) (second : IsClean back) :
    IsClean (front ++ back) := by
  intro c member
  rcases List.mem_append.mp member with member | member
  · exact first c member
  · exact second c member

theorem IsClean.cons (first : isUnsafeByte c = false) (second : IsClean back) :
    IsClean (c :: back) := by
  intro d member
  rcases List.mem_cons.mp member with rfl | member
  · exact first
  · exact second d member

theorem isClean_filter : IsClean (text.filter (!isUnsafeByte ·)) := by
  intro c member
  simpa using (List.mem_filter.mp member).2

theorem IsClean.filter (clean : IsClean text) : text.filter (!isUnsafeByte ·) = text := by
  apply List.filter_eq_self.mpr
  intro c member
  simp [clean c member]

theorem IsClean.mono (clean : IsClean text) (inside : ∀ c ∈ front, c ∈ text) : IsClean front :=
  fun c member => clean c (inside c member)

theorem mem_of_mem_partition_snd (rest : (partition separator text).2 = some back)
    (member : c ∈ back) : c ∈ text := by
  by_cases inside : separator ∈ text
  · rcases exists_of_mem inside with ⟨first, last, rfl, clean⟩
    rw [partition_append_cons clean] at rest
    cases rest
    simp [member]
  · rw [partition_of_not_mem inside] at rest
    cases rest

theorem mem_of_mem_partition_getD (member : c ∈ (partition separator text).2.getD []) :
    c ∈ text := by
  cases rest : (partition separator text).2 with
  | none => simp [rest] at member
  | some back =>
      rw [rest] at member
      exact mem_of_mem_partition_snd rest member

end Clean

/-! ## References that start with a single `/` -/

/-- What remains of a reference: the characters that `urlsplit` removes are gone. -/
def kept (url : Str) : Str := url.filter (!isUnsafeByte ·)

def referencePath (url : Str) : Str := (partition (code '?') (partition (code '#') (kept url)).1).1

def referenceQuery (url : Str) : Str :=
  (partition (code '?') (partition (code '#') (kept url)).1).2.getD []

def referenceFragment (url : Str) : Str := (partition (code '#') (kept url)).2.getD []

section References

variable {url : Str} {c : CodePoint}

theorem referencePath_clean : IsClean (referencePath url) :=
  isClean_filter.mono fun _ member => mem_of_mem_partition (mem_of_mem_partition member)

theorem referenceQuery_clean : IsClean (referenceQuery url) :=
  isClean_filter.mono fun _ member => mem_of_mem_partition (mem_of_mem_partition_getD member)

theorem referenceFragment_clean : IsClean (referenceFragment url) :=
  isClean_filter.mono fun _ member => mem_of_mem_partition_getD member

theorem query_not_mem_referencePath : code '?' ∉ referencePath url := not_mem_partition

theorem fragment_not_mem_referencePath : code '#' ∉ referencePath url :=
  fun member => not_mem_partition (mem_of_mem_partition member)

theorem fragment_not_mem_referenceQuery : code '#' ∉ referenceQuery url :=
  fun member => not_mem_partition (mem_of_mem_partition_getD member)

end References

section Splitting

variable {scheme rest : Str} {c : CodePoint}

theorem splitScheme_rooted : splitScheme scheme (code '/' :: rest) = (scheme, code '/' :: rest) := by
  by_cases colon : code ':' ∈ rest
  · rcases exists_of_mem colon with ⟨front, back, rfl, clean⟩
    have whole : code '/' :: (front ++ code ':' :: back) =
        (code '/' :: front) ++ code ':' :: back := rfl
    have apart : code ':' ∉ code '/' :: front := by
      rw [List.mem_cons, not_or]
      exact ⟨by decide, clean⟩
    have alpha : isAsciiAlpha (code '/') = false := by decide
    rw [splitScheme, whole, partition_append_cons apart]
    simp [alpha]
  · have apart : code ':' ∉ code '/' :: rest := by
      rw [List.mem_cons, not_or]
      exact ⟨by decide, colon⟩
    rw [splitScheme, partition_of_not_mem apart]

theorem bracketsOk_nil : bracketsOk [] = true := by decide

theorem kept_rooted (clean : isUnsafeByte c = false) :
    kept (code '/' :: c :: rest) = code '/' :: c :: kept rest := by
  have slash : isUnsafeByte (code '/') = false := by decide
  simp [kept, slash, clean]

theorem urlsplit_rooted [Runtime] (single : c ≠ code '/') (clean : isUnsafeByte c = false) :
    urlsplit (code '/' :: c :: rest) scheme =
      some {
        scheme
        netloc := []
        path := referencePath (code '/' :: c :: rest)
        query := referenceQuery (code '/' :: c :: rest)
        fragment := referenceFragment (code '/' :: c :: rest) } := by
  have slash : isC0OrSpace (code '/') = false := by decide
  have same : ((code '/' :: c :: rest).dropWhile isC0OrSpace).filter (!isUnsafeByte ·) =
      code '/' :: c :: kept rest := by
    rw [List.dropWhile_cons, slash]
    exact kept_rooted clean
  rw [urlsplit, same, referencePath, referenceQuery, referenceFragment, kept_rooted clean]
  simp only [splitScheme_rooted]
  simp [single, bracketsOk_nil, netlocOk]

end Splitting

/-! ## Splitting a joined URL -/

/-- `path;params` -/
def withParams (path params : Str) : Str :=
  if params.isEmpty then path else path ++ [code ';'] ++ params

/-- A path after a network location -/
def rooted (path : Str) : Str :=
  if !path.isEmpty && path.head? ≠ some (code '/') then code '/' :: path else path

section Joining

variable [Runtime] {url scheme netloc path query fragment base : Str} {c : CodePoint}
  {split : SplitResult} {parts : ParseResult}

/-- The network location and what follows it -/
def splitNetloc : Str → Str × Str
  | a :: b :: rest =>
      if a = code '/' && b = code '/' then
        (rest.takeWhile (!isNetlocEnd ·), rest.dropWhile (!isNetlocEnd ·))
      else ([], a :: b :: rest)
  | url => ([], url)

/-- `urlsplit` of a text that holds no unsafe bytes -/
def splitKept (url scheme : Str) : Option SplitResult :=
  let (scheme, url) := splitScheme scheme url
  let (netloc, url) := splitNetloc url
  let (url, fragment) := partition (code '#') url
  let (path, query) := partition (code '?') url
  if bracketsOk netloc && netlocOk netloc then
    some { scheme, netloc, path, query := query.getD [], fragment := fragment.getD [] }
  else none

theorem urlsplit_eq : urlsplit url scheme = splitKept (kept (url.dropWhile isC0OrSpace)) scheme := by
  rw [urlsplit, splitKept, kept]
  generalize (url.dropWhile isC0OrSpace).filter (!isUnsafeByte ·) = text
  rcases splitScheme scheme text with ⟨found, rest⟩
  rcases rest with _ | ⟨a, _ | ⟨b, rest⟩⟩ <;> rfl

omit [Runtime] in
theorem mem_splitScheme (member : c ∈ (splitScheme scheme url).2) : c ∈ url := by
  rw [splitScheme] at member
  split at member
  · rename_i lead rest parted
    split at member
    · exact mem_of_mem_partition_snd (by rw [parted]) member
    · exact member
  · exact member

omit [Runtime] in
theorem mem_splitNetloc (member : c ∈ (splitNetloc url).1) : c ∈ url ∧ isNetlocEnd c = false := by
  unfold splitNetloc at member
  split at member
  · rename_i a b rest
    split at member
    · have taken := List.all_eq_true.mp List.all_takeWhile c member
      have inside := (List.takeWhile_prefix _).subset member
      exact ⟨by simp [inside], by simpa using taken⟩
    · cases member
  · cases member

/-- The network location of a split URL can be split off again. -/
theorem urlsplit_netloc (found : urlsplit url scheme = some split) :
    IsClean split.netloc ∧ IsNetloc split.netloc ∧
      bracketsOk split.netloc = true ∧ netlocOk split.netloc = true := by
  rw [urlsplit_eq, splitKept] at found
  dsimp only at found
  split at found
  · rename_i checked
    rw [Bool.and_eq_true] at checked
    cases found
    refine ⟨?_, ?_, checked.1, checked.2⟩
    · apply isClean_filter.mono
      intro c member
      exact mem_splitScheme (mem_splitNetloc member).1
    · intro c member
      exact (mem_splitNetloc member).2
  · cases found

/-- `?query` -/
def querySuffix (query : Str) : Str := if query.isEmpty then [] else code '?' :: query

/-- `#fragment` -/
def fragmentSuffix (fragment : Str) : Str :=
  if fragment.isEmpty then [] else code '#' :: fragment

/-- Parts that `urlsplit` finds again in the URL that `urlunparse` makes of them -/
structure IsSplittable (parts : ParseResult) : Prop where
  scheme : IsScheme parts.scheme
  netlocClean : IsClean parts.netloc
  netloc : IsNetloc parts.netloc
  brackets : bracketsOk parts.netloc = true
  normal : netlocOk parts.netloc = true
  pathClean : IsClean (withParams parts.path parts.params)
  pathQuery : code '?' ∉ withParams parts.path parts.params
  pathFragment : code '#' ∉ withParams parts.path parts.params
  queryClean : IsClean parts.query
  queryFragment : code '#' ∉ parts.query
  fragmentClean : IsClean parts.fragment

omit [Runtime] in
theorem mem_rooted (member : c ∈ rooted path) : c = code '/' ∨ c ∈ path := by
  rw [rooted] at member
  split at member
  · exact List.mem_cons.mp member
  · exact .inr member

omit [Runtime] in
theorem IsScheme.ne_nil (scheme' : IsScheme scheme) : scheme ≠ [] := by
  rintro rfl
  exact absurd scheme'.head (by decide)

omit [Runtime] in
/-- `urlunparse` of parts with a scheme that has network locations -/
theorem urlunparse_eq (scheme : IsScheme parts.scheme) :
    urlunparse parts = parts.scheme ++ code ':' :: code '/' :: code '/' :: (parts.netloc ++
      (rooted (withParams parts.path parts.params) ++
        (querySuffix parts.query ++ fragmentSuffix parts.fragment))) := by
  have some : parts.scheme.isEmpty = false := by
    simpa using scheme.ne_nil
  rw [urlunparse]
  simp only [some, scheme.netloc, withParams, rooted, querySuffix, fragmentSuffix]
  have slashes : ("//" : Str) = [code '/', code '/'] := by decide
  split <;> split <;> simp [slashes]

omit [Runtime] in
theorem splitNetloc_append {rest : Str} (netloc' : IsNetloc netloc)
    (ends : ∀ c, rest.head? = some c → isNetlocEnd c = true) :
    splitNetloc (code '/' :: code '/' :: (netloc ++ rest)) = (netloc, rest) := by
  have inside : ∀ c ∈ netloc, (!isNetlocEnd c) = true := by
    intro c member
    simp [netloc' c member]
  simp only [splitNetloc, List.takeWhile_append_of_pos inside, List.dropWhile_append_of_pos inside]
  cases rest with
  | nil => simp
  | cons c more => simp [ends c rfl]

omit [Runtime] in
theorem partition_fragmentSuffix {front : Str} (fragment : Str) (clean : code '#' ∉ front) :
    ∃ rest, partition (code '#') (front ++ fragmentSuffix fragment) = (front, rest) ∧
      rest.getD [] = fragment := by
  cases fragment with
  | nil => exact ⟨none, by simpa [fragmentSuffix] using partition_of_not_mem clean, rfl⟩
  | cons c more => exact ⟨some (c :: more), by simpa [fragmentSuffix] using partition_append_cons clean, rfl⟩

omit [Runtime] in
theorem partition_querySuffix {front : Str} (query : Str) (clean : code '?' ∉ front) :
    ∃ rest, partition (code '?') (front ++ querySuffix query) = (front, rest) ∧
      rest.getD [] = query := by
  cases query with
  | nil => exact ⟨none, by simpa [querySuffix] using partition_of_not_mem clean, rfl⟩
  | cons c more => exact ⟨some (c :: more), by simpa [querySuffix] using partition_append_cons clean, rfl⟩

omit [Runtime] in
theorem colon_not_mem_scheme (scheme' : IsScheme scheme) : code ':' ∉ scheme := by
  intro member
  have allowed := List.all_eq_true.mp scheme'.chars _ member
  exact absurd allowed (by decide)

omit [Runtime] in
theorem splitScheme_append {default rest : Str} (scheme' : IsScheme scheme) :
    splitScheme default (scheme ++ code ':' :: rest) = (scheme, rest) := by
  rw [splitScheme, partition_append_cons (colon_not_mem_scheme scheme')]
  simp [scheme'.head, scheme'.chars, scheme'.lower]

omit [Runtime] in
theorem IsScheme.clean (scheme' : IsScheme scheme) : IsClean scheme := by
  intro c member
  have allowed := List.all_eq_true.mp scheme'.chars _ member
  rw [Bool.eq_false_iff]
  intro removed
  have found : c = 9 ∨ c = 13 ∨ c = 10 := by
    simpa [isUnsafeByte, or_assoc] using removed
  rcases found with rfl | rfl | rfl <;> exact absurd allowed (by decide)

omit [Runtime] in
/-- The characters that `urlsplit` strips and removes do not occur in the URL. -/
theorem kept_dropWhile {rest : Str} (scheme' : IsScheme scheme) (clean : IsClean rest) :
    kept ((scheme ++ rest).dropWhile isC0OrSpace) = scheme ++ rest := by
  have first : (scheme ++ rest).dropWhile isC0OrSpace = scheme ++ rest := by
    cases letters : scheme with
    | nil => exact absurd letters scheme'.ne_nil
    | cons c more =>
        have alpha : isAsciiAlpha c = true := by
          simpa [letters] using scheme'.head
        have visible : isC0OrSpace c = false := by
          simp only [isAsciiAlpha, Bool.or_eq_true, Bool.and_eq_true, decide_eq_true_eq] at alpha
          have lowest : (65 : Nat) ≤ c := by
            rcases alpha with ⟨small, _⟩ | ⟨capital, _⟩
            · exact Nat.le_trans (by decide) small
            · exact capital
          simp only [isC0OrSpace, decide_eq_false_iff_not]
          exact Nat.not_le.mpr (Nat.lt_of_lt_of_le (by decide) lowest)
        simp [visible]
  rw [first, kept]
  exact (scheme'.clean.append clean).filter

omit [Runtime] in
/-- What follows the network location starts with a character that ends it. -/
theorem isNetlocEnd_of_head (head : (rooted path ++
    (querySuffix query ++ fragmentSuffix fragment)).head? = some c) : isNetlocEnd c = true := by
  cases path with
  | cons first rest =>
      have slash : ∃ tail, rooted (first :: rest) = code '/' :: tail := by
        by_cases same : first = code '/' <;> simp [rooted, same]
      rcases slash with ⟨tail, same⟩
      rw [same] at head
      cases head
      decide
  | nil =>
      cases query with
      | cons first rest =>
          simp only [rooted, querySuffix, List.isEmpty_nil, List.isEmpty_cons] at head
          cases head
          decide
      | nil =>
          cases fragment with
          | cons first rest =>
              cases head
              decide
          | nil => cases head

theorem urlsplit_urlunparse (splittable : IsSplittable parts) :
    urlsplit (urlunparse parts) = some {
      scheme := parts.scheme
      netloc := parts.netloc
      path := rooted (withParams parts.path parts.params)
      query := parts.query
      fragment := parts.fragment } := by
  rcases splittable with ⟨scheme, netlocClean, netloc, brackets, normal, pathClean, pathQuery,
    pathFragment, queryClean, queryFragment, fragmentClean⟩
  rw [urlsplit_eq, urlunparse_eq scheme]
  generalize shown : rooted (withParams parts.path parts.params) = path
  have inside : ∀ c ∈ path, c = code '/' ∨ c ∈ withParams parts.path parts.params := by
    rw [← shown]
    exact fun c => mem_rooted
  have apart : ∀ mark, mark ≠ code '/' → mark ∉ withParams parts.path parts.params →
      mark ∉ path := by
    intro mark other absent member
    rcases inside mark member with same | member
    · exact other same
    · exact absent member
  have queryAbsent := apart (code '?') (by decide) pathQuery
  have fragmentAbsent := apart (code '#') (by decide) pathFragment
  have clean : IsClean path := by
    intro c member
    rcases inside c member with rfl | member
    · decide
    · exact pathClean c member
  have queryPart : IsClean (querySuffix parts.query) := by
    rw [querySuffix]
    split
    · exact fun c member => absurd member List.not_mem_nil
    · exact .cons (by decide) queryClean
  have fragmentPart : IsClean (fragmentSuffix parts.fragment) := by
    rw [fragmentSuffix]
    split
    · exact fun c member => absurd member List.not_mem_nil
    · exact .cons (by decide) fragmentClean
  have whole : IsClean (code ':' :: code '/' :: code '/' :: (parts.netloc ++
      (path ++ (querySuffix parts.query ++ fragmentSuffix parts.fragment)))) :=
    .cons (by decide) (.cons (by decide) (.cons (by decide)
      (netlocClean.append (clean.append (queryPart.append fragmentPart)))))
  have ends : ∀ c, (path ++ (querySuffix parts.query ++ fragmentSuffix parts.fragment)).head? =
      some c → isNetlocEnd c = true := by
    intro c head
    rw [← shown] at head
    exact isNetlocEnd_of_head head
  have absent : code '#' ∉ path ++ querySuffix parts.query := by
    intro member
    rcases List.mem_append.mp member with member | member
    · exact fragmentAbsent member
    · rw [querySuffix] at member
      split at member
      · cases member
      · rcases List.mem_cons.mp member with same | member
        · exact absurd same (by decide)
        · exact queryFragment member
  rcases partition_fragmentSuffix parts.fragment absent with
    ⟨fragment, fragmentFound, fragmentSame⟩
  rcases partition_querySuffix parts.query queryAbsent with
    ⟨query, queryFound, querySame⟩
  rw [kept_dropWhile scheme whole, splitKept]
  dsimp only
  rw [splitScheme_append scheme]
  dsimp only
  rw [splitNetloc_append netloc ends]
  dsimp only
  rw [← List.append_assoc, fragmentFound]
  dsimp only
  rw [queryFound]
  simp [brackets, normal, querySame, fragmentSame]

/-! ## Joining with a reference that starts with a single `/` -/

/-- The joined path: `"/".join(resolved_path) or "/"` -/
def resolvedPath (segments : List Str) : Str :=
  let path := join "/" (resolveSegments segments)
  if path.isEmpty then "/" else path

omit [Runtime] in
theorem mem_foldl_resolveStep {segment : Str} {start segments : List Str}
    (member : segment ∈ segments.foldl resolveStep start) : segment ∈ start ∨ segment ∈ segments := by
  induction segments generalizing start with
  | nil => exact .inl member
  | cons head rest ih =>
      rcases ih member with found | found
      · rw [resolveStep] at found
        split at found
        · exact .inl (List.dropLast_subset _ found)
        · split at found
          · exact .inl found
          · rcases List.mem_append.mp found with found | found
            · exact .inl found
            · exact .inr (by simp [List.mem_singleton.mp found])
      · exact .inr (List.mem_cons_of_mem head found)

omit [Runtime] in
theorem mem_resolveSegments {segment : Str} {segments : List Str}
    (member : segment ∈ resolveSegments segments) : segment = [] ∨ segment ∈ segments := by
  have inner : segment ∈ segments.foldl resolveStep [] → segment ∈ segments := by
    intro found
    rcases mem_foldl_resolveStep found with impossible | found
    · cases impossible
    · exact found
  rw [resolveSegments] at member
  split at member
  · rcases List.mem_append.mp member with found | found
    · exact .inr (inner found)
    · exact .inl (List.mem_singleton.mp found)
  · exact .inr (inner member)

omit [Runtime] in
theorem mem_resolvedPath (member : c ∈ resolvedPath (splitOn (code '/') path)) :
    c = code '/' ∨ c ∈ path := by
  rw [resolvedPath] at member
  split at member
  · exact .inl (List.mem_singleton.mp member)
  · rcases mem_join member with same | ⟨segment, resolved, inside⟩
    · exact .inl same
    · rcases mem_resolveSegments resolved with rfl | found
      · cases inside
      · exact .inr (mem_of_mem_splitOn found inside)

omit [Runtime] in
theorem mem_splitParams (member : c ∈ (splitParams path).1 ∨ c ∈ (splitParams path).2) :
    c ∈ path := by
  by_cases inside : code '/' ∈ path
  · rcases exists_last_of_mem inside with ⟨front, last, rfl, clean⟩
    rw [splitParams, rpartition_append_cons clean] at member
    simp only [List.mem_append, List.mem_singleton] at member
    rcases member with ((member | rfl) | member) | member
    · simp [member]
    · simp
    · simp [mem_of_mem_partition member]
    · simp [mem_of_mem_partition_getD member]
  · rw [splitParams, rpartition_of_not_mem inside] at member
    rcases member with member | member
    · exact mem_of_mem_partition member
    · exact mem_of_mem_partition_getD member

omit [Runtime] in
theorem splitParams_rooted {rest : Str} :
    ∃ more, (splitParams (code '/' :: rest)).1 = code '/' :: more := by
  rcases exists_last_of_mem (List.mem_cons_self : code '/' ∈ code '/' :: rest) with
    ⟨front, last, same, clean⟩
  rw [same, splitParams, rpartition_append_cons clean]
  cases front with
  | nil => exact ⟨_, rfl⟩
  | cons first more =>
      cases same
      exact ⟨_, rfl⟩

omit [Runtime] in
theorem referencePath_rooted {rest : Str} (clean : isUnsafeByte c = false) :
    ∃ more, referencePath (code '/' :: c :: rest) = code '/' :: more := by
  have path : ∀ text, (partition (code '#') (code '/' :: text)).1 =
      code '/' :: (partition (code '#') text).1 := by
    intro text
    have apart : code '/' ≠ code '#' := by decide
    simp [partition, apart]
  have query : ∀ text, (partition (code '?') (code '/' :: text)).1 =
      code '/' :: (partition (code '?') text).1 := by
    intro text
    have apart : code '/' ≠ code '?' := by decide
    simp [partition, apart]
  refine ⟨(partition (code '?') (partition (code '#') (c :: kept rest)).1).1, ?_⟩
  rw [referencePath, kept_rooted clean, path, query]

/-- The parts of the URL that a reference with a single leading `/` leads to -/
def joinedParts (root : ParseResult) (reference : Str) : ParseResult :=
  { scheme := root.scheme
    netloc := root.netloc
    path := resolvedPath (splitOn (code '/') (splitParams (referencePath reference)).1)
    params := (splitParams (referencePath reference)).2
    query := referenceQuery reference
    fragment := referenceFragment reference }

theorem urljoin_rooted {root : ParseResult} {rest : Str} (parsed : urlparse base = some root)
    (some : base ≠ []) (relative : root.scheme ∈ usesRelative) (netloc : root.scheme ∈ usesNetloc)
    (params : root.scheme ∈ usesParams) (single : c ≠ code '/') (clean : isUnsafeByte c = false) :
    urljoin base (code '/' :: c :: rest) =
      .some (urlunparse (joinedParts root (code '/' :: c :: rest))) := by
  rcases @referencePath_rooted c rest clean with ⟨more, path⟩
  rcases @splitParams_rooted more with ⟨tail, rootedPath⟩
  have reference : urlparse (code '/' :: c :: rest) root.scheme = .some {
      scheme := root.scheme
      netloc := []
      path := (splitParams (referencePath (code '/' :: c :: rest))).1
      params := (splitParams (referencePath (code '/' :: c :: rest))).2
      query := referenceQuery (code '/' :: c :: rest)
      fragment := referenceFragment (code '/' :: c :: rest) } := by
    rw [urlparse, urlsplit_rooted single clean]
    simp [params]
  have present : (splitParams (referencePath (code '/' :: c :: rest))).1 = code '/' :: tail := by
    rw [path, rootedPath]
  have base' : base.isEmpty = false := by simpa using some
  rw [urljoin, parsed]
  dsimp only [bind, Option.bind]
  rw [reference, joinedParts, resolvedPath, present]
  simp [base', relative, netloc, joinedSegments]

omit [Runtime] in
theorem mem_withParams {params : Str} (member : c ∈ withParams path params) :
    c ∈ path ∨ c = code ';' ∨ c ∈ params := by
  rw [withParams] at member
  split at member
  · exact .inl member
  · simpa [or_assoc] using member

/-- The path of the joined URL -/
def joinedPath (reference : Str) : Str :=
  rooted (withParams
    (resolvedPath (splitOn (code '/') (splitParams (referencePath reference)).1))
    (splitParams (referencePath reference)).2)

theorem joinedParts_splittable {root : ParseResult} {reference : Str}
    (parsed : urlparse base = some root) (scheme : IsScheme root.scheme) :
    IsSplittable (joinedParts root reference) := by
  have netloc : IsClean root.netloc ∧ IsNetloc root.netloc ∧ bracketsOk root.netloc = true ∧
      netlocOk root.netloc = true := by
    rcases Option.map_eq_some_iff.mp parsed with ⟨split, found, rfl⟩
    exact urlsplit_netloc found
  have inside : ∀ c ∈ withParams (joinedParts root reference).path
      (joinedParts root reference).params,
      c = code '/' ∨ c = code ';' ∨ c ∈ referencePath reference := by
    intro c member
    rcases mem_withParams member with member | same | member
    · rcases mem_resolvedPath member with same | member
      · exact .inl same
      · exact .inr (.inr (mem_splitParams (.inl member)))
    · exact .inr (.inl same)
    · exact .inr (.inr (mem_splitParams (.inr member)))
  refine ⟨scheme, netloc.1, netloc.2.1, netloc.2.2.1, netloc.2.2.2, ?_, ?_, ?_,
    referenceQuery_clean, fragment_not_mem_referenceQuery, referenceFragment_clean⟩
  · intro c member
    rcases inside c member with rfl | rfl | member
    · decide
    · decide
    · exact referencePath_clean c member
  · intro member
    rcases inside _ member with same | same | member
    · exact absurd same (by decide)
    · exact absurd same (by decide)
    · exact query_not_mem_referencePath member
  · intro member
    rcases inside _ member with same | same | member
    · exact absurd same (by decide)
    · exact absurd same (by decide)
    · exact fragment_not_mem_referencePath member

omit [Runtime] in
theorem isScheme_https : IsScheme "https" := by
  constructor <;> decide

/-- A base that starts with `https://` has that scheme. -/
theorem urlparse_https {root : ParseResult} (https : ("https://" : Str).isPrefixOf base = true)
    (parsed : urlparse base = some root) : root.scheme = "https" := by
  rcases Option.map_eq_some_iff.mp parsed with ⟨split, found, rfl⟩
  rcases List.isPrefixOf_iff_prefix.mp https with ⟨rest, rfl⟩
  have first : (("https://" : Str) ++ rest).dropWhile isC0OrSpace = ("https://" : Str) ++ rest := rfl
  have text : kept (("https://" : Str) ++ rest) =
      ("https" : Str) ++ code ':' :: (("//" : Str) ++ kept rest) := by
    rw [kept, List.filter_append]
    rfl
  rw [urlsplit_eq, first, text, splitKept] at found
  dsimp only at found
  rw [splitScheme_append isScheme_https] at found
  split at found
  · cases found
    rfl
  · cases found

/-- Joining a base that starts with `https://` and a reference with a single leading `/` -/
theorem urljoin_https {root : SplitResult} {rest : Str}
    (https : ("https://" : Str).isPrefixOf base = true) (parsed : urlsplit base = some root)
    (single : c ≠ code '/') (clean : isUnsafeByte c = false) :
    ∃ url split, urljoin base (code '/' :: c :: rest) = some url ∧ urlsplit url = some split ∧
      split.path = joinedPath (code '/' :: c :: rest) := by
  have some : base ≠ [] := by
    rintro rfl
    exact absurd https (by decide)
  have parts : ∃ root, urlparse base = .some root := by
    rw [urlparse, parsed]
    exact ⟨_, rfl⟩
  rcases parts with ⟨root, parts⟩
  have scheme := urlparse_https https parts
  have splittable : IsSplittable (joinedParts root (code '/' :: c :: rest)) :=
    joinedParts_splittable parts (scheme ▸ isScheme_https)
  refine ⟨_, _, urljoin_rooted parts some ?_ ?_ ?_ single clean, urlsplit_urlunparse splittable, rfl⟩
  · rw [scheme]
    decide
  · rw [scheme]
    decide
  · rw [scheme]
    decide

end Joining

end Python
