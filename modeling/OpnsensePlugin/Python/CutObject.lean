import OpnsensePlugin.Python.FlatObject

/-!
# Flat objects in pieces

An object that is cut inside of its texts is not read again: none of the pieces
is an object with members to `json.loads`. The first piece ends in a text. Any
other piece starts in one, so that the first quote in it that is not escaped
closes that text and would have to open a key.
-/

namespace Python

/-! ## The first piece -/

/-- The members of an object up to a place in the text of the last one -/
def cutText : List (Str × Scalar) → Str → Str → Str
  | [], key, cut => code '"' :: (escaped key ++ code '"' :: code ':' :: code '"' :: cut)
  | member :: rest, key, cut => memberText member ++ code ',' :: cutText rest key cut

/-- What can follow the closing quote of a text: the end of the object or another member -/
def FollowsText (rest : Str) : Prop :=
  rest = [code '\x7d'] ∨
    ∃ letter more, rest = code ',' :: code '"' :: letter :: more ∧ isAsciiAlpha letter = true

section Cuts

variable {c : CodePoint} {rest cut part text front after : Str} {readFloat : Str → PyFloat}
  {members : List (Str × Scalar)} {fields : List (Str × Json)} {fuel depth : Nat} {key : Str}

theorem scanMembers_short : ∃ error, scanMembers readFloat 1 depth fields text = .error error := by
  rw [scanMembers]
  cases scanString text with
  | none => exact ⟨_, rfl⟩
  | some scanned =>
      simp only [bind, Except.bind]
      cases expect (code ':') (skipSpace scanned.2) with
      | error error => exact ⟨_, rfl⟩
      | ok behind => exact ⟨_, rfl⟩

theorem scanMembers_cut (fits : ∀ entry ∈ members, entry.2.Fits) (inside : cut <+: escaped part) :
    ∃ tail, cutText members key cut = code '"' :: tail ∧
      ∀ fuel fields, ∃ error, scanMembers readFloat fuel depth fields tail = .error error := by
  induction members with
  | nil =>
      refine ⟨_, rfl, ?_⟩
      intro fuel fields
      cases fuel with
      | zero => exact ⟨_, rfl⟩
      | succ less =>
          rw [scanMembers, scanString_escaped]
          simp only [skipSpace_colon, expect_cons, skipSpace_quote, bind, Except.bind]
          cases less with
          | zero => exact ⟨_, rfl⟩
          | succ less =>
              rw [scanValue.eq_def]
              simp only [if_true, scanString_cut inside]
              exact ⟨_, rfl⟩
  | cons member more ih =>
      rcases ih fun entry known => fits entry (List.mem_cons_of_mem _ known) with
        ⟨tail, same, failing⟩
      refine ⟨_, by rw [cutText, memberText_append], ?_⟩
      intro fuel fields
      rcases fuel with _ | _ | fuel
      · exact ⟨_, rfl⟩
      · exact scanMembers_short
      · rw [same, scanMembers_next (fits member (by simp))]
        exact failing _ _

/-- An object that is cut in a text is not read. -/
theorem loads_cut (fits : ∀ entry ∈ members, entry.2.Fits) (inside : cut <+: escaped part) :
    ∃ error, loads readFloat depth (code '\x7b' :: cutText members key cut) = .error error := by
  rcases @scanMembers_cut _ _ readFloat members (depth - 1) key fits inside with ⟨tail, same, failing⟩
  have blank : skipSpace (code '\x7b' :: cutText members key cut) =
      code '\x7b' :: cutText members key cut := skipSpace_cons (by decide)
  have scanned : ∃ error, scanValue readFloat
      ((code '\x7b' :: cutText members key cut).length + 1) depth
      (code '\x7b' :: cutText members key cut) = .error error := by
    generalize (code '\x7b' :: cutText members key cut).length = fuel
    rw [same]
    cases depth with
    | zero =>
        have quote : code '\x7b' ≠ code '"' := by decide
        rw [scanValue.eq_def]
        simp only [if_neg quote, if_true]
        exact ⟨_, rfl⟩
    | succ less =>
        rw [scanValue_object]
        exact failing _ _
  rcases scanned with ⟨error, scanned⟩
  have mark : (code '\x7b' :: cutText members key cut).head? ≠ some 0xfeff := by
    simp only [List.head?_cons, ne_eq, Option.some.injEq]
    decide
  rw [loads, if_neg mark, blank, scanned]
  exact ⟨error, rfl⟩

end Cuts

/-! ## The other pieces -/

section Keys

variable {c : CodePoint} {rest part text after piece : Str} {readFloat : Str → PyFloat}
  {value : Json} {fields : List (Str × Json)} {fuel depth : Nat}

theorem scanMagnitude_value {negative : Bool}
    (scanned : scanMagnitude readFloat negative text = .ok (value, rest)) :
    value ≠ .obj fields := by
  rintro rfl
  simp only [scanMagnitude] at scanned
  split at scanned
  · cases scanned
  · split at scanned
    · split at scanned
      · cases scanned
      · cases scanned
    · cases scanned

theorem scanNumber_value (scanned : scanNumber readFloat text = .ok (value, rest)) :
    value ≠ .obj fields := by
  cases text with
  | nil => cases scanned
  | cons c more =>
      simp only [scanNumber] at scanned
      split at scanned
      · exact scanMagnitude_value scanned
      · exact scanMagnitude_value scanned

theorem scanKeyword_value (scanned : scanKeyword text = some (value, rest)) :
    value ≠ .obj fields := by
  rcases Option.map_eq_some_iff.mp scanned with ⟨⟨word, found⟩, member, same⟩
  have known := List.mem_of_find?_eq_some member
  cases same
  rintro rfl
  simp [keywords] at known

theorem scanItems_value {items : List Json}
    (scanned : scanItems readFloat fuel depth items text = .ok (value, rest)) :
    value ≠ .obj fields := by
  induction fuel generalizing items text with
  | zero => cases scanned
  | succ less ih =>
      rw [scanItems, bind_eq_ok] at scanned
      rcases scanned with ⟨⟨item, behind⟩, _, scanned⟩
      dsimp only at scanned
      split at scanned
      · cases scanned
      · split at scanned
        · cases scanned
          rintro ⟨⟩
        · split at scanned
          · exact ih scanned
          · cases scanned

/-- Reading members starts with a key. -/
theorem scanMembers_key
    (scanned : scanMembers readFloat fuel depth fields text = .ok (value, rest)) :
    ∃ key behind more, scanString text = some (key, behind) ∧
      skipSpace behind = code ':' :: more := by
  cases fuel with
  | zero => cases scanned
  | succ less =>
      rw [scanMembers] at scanned
      split at scanned
      · cases scanned
      · rename_i key behind read
        rw [bind_eq_ok] at scanned
        rcases scanned with ⟨more, colon, _⟩
        refine ⟨key, behind, more, read, ?_⟩
        unfold expect at colon
        split at colon
        · cases colon
        · rename_i d tail found
          split at colon
          · rename_i same
            cases colon
            rw [found, same]
          · cases colon

/-- An object with members starts with a brace and a key. -/
theorem scanValue_key {entry : Str × Json}
    (scanned : scanValue readFloat fuel depth text = .ok (.obj (entry :: fields), rest)) :
    ∃ gap after key behind more, text = code '\x7b' :: gap ∧
      skipSpace gap = code '"' :: after ∧ scanString after = some (key, behind) ∧
      skipSpace behind = code ':' :: more := by
  cases fuel with
  | zero =>
      rw [scanValue.eq_def] at scanned
      cases scanned
  | succ less =>
      cases text with
      | nil =>
          rw [scanValue.eq_def] at scanned
          cases scanned
      | cons c gap =>
          rw [scanValue.eq_def] at scanned
          dsimp only at scanned
          split at scanned
          · split at scanned <;> cases scanned
          · split at scanned
            · rename_i brace
              subst brace
              split at scanned
              · cases scanned
              · cases scanned
              · rename_i d after found
                split at scanned
                · cases scanned
                · split at scanned
                  · rename_i quote
                    subst quote
                    rcases scanMembers_key scanned with ⟨key, behind, more, read, colon⟩
                    exact ⟨gap, after, key, behind, more, rfl, found, read, colon⟩
                  · cases scanned
            · split at scanned
              · split at scanned
                · cases scanned
                · cases scanned
                · split at scanned
                  · cases scanned
                  · exact absurd rfl (scanItems_value scanned)
              · split at scanned
                · rename_i found
                  cases scanned
                  exact absurd rfl (scanKeyword_value found)
                · exact absurd rfl (scanNumber_value scanned)

/-- A character that may stand before the first quote of a text that is read as an object -/
def IsLead (c : CodePoint) : Prop := c ≠ code '"' ∧ c ≠ code '\\'

theorem exists_lead_of_skipSpace (found : skipSpace text = rest) :
    ∃ lead, text = lead ++ rest ∧ ∀ c ∈ lead, IsLead c := by
  refine ⟨text.takeWhile isJsonSpace, ?_, ?_⟩
  · rw [← found]
    exact (List.takeWhile_append_dropWhile).symm
  · intro c member
    have blank := List.all_eq_true.mp List.all_takeWhile c member
    constructor
    · rintro rfl
      exact absurd blank (by decide)
    · rintro rfl
      exact absurd blank (by decide)

/-- The first quote of a text that is read as an object with members opens a key. -/
theorem loads_key {entry : Str × Json}
    (read : loads readFloat depth text = .ok (.obj (entry :: fields))) :
    ∃ lead after key behind more, text = lead ++ code '"' :: after ∧ (∀ c ∈ lead, IsLead c) ∧
      scanString after = some (key, behind) ∧ skipSpace behind = code ':' :: more := by
  rw [loads] at read
  split at read
  · cases read
  · rw [bind_eq_ok] at read
    rcases read with ⟨⟨value, rest⟩, scanned, ended⟩
    dsimp only at ended
    split at ended
    · cases ended
      rcases scanValue_key scanned with ⟨gap, after, key, behind, more, brace, quote, string, colon⟩
      rcases exists_lead_of_skipSpace brace with ⟨lead, rfl, blank⟩
      rcases exists_lead_of_skipSpace quote with ⟨middle, rfl, blanks⟩
      refine ⟨lead ++ code '\x7b' :: middle, after, key, behind, more, by simp, ?_, string, colon⟩
      intro c member
      rcases List.mem_append.mp member with member | member
      · exact blank c member
      · rcases List.mem_cons.mp member with rfl | member
        · exact ⟨by decide, by decide⟩
        · exact blanks c member
    · cases ended

end Keys

section Inside

variable {part rest lead after piece trail : Str} {readFloat : Str → PyFloat} {depth : Nat}
  {entry : Str × Json} {fields : List (Str × Json)}

/-- The first quote that is not escaped closes the text. -/
theorem quote_closes (clear : ∀ c ∈ lead, IsLead c)
    (same : escaped part ++ code '"' :: rest = lead ++ code '"' :: after) : rest = after := by
  induction part generalizing lead with
  | nil =>
      cases lead with
      | nil => exact (List.cons.inj same).2
      | cons d more =>
          have first : code '"' = d := (List.cons.inj same).1
          exact absurd first.symm (clear d (by simp)).1
  | cons c more ih =>
      rw [escaped_cons] at same
      have slash : ∀ tail : Str, code '\\' :: tail ≠ lead ++ code '"' :: after := by
        intro tail equal
        cases lead with
        | nil => exact absurd (List.cons.inj equal).1 (by decide)
        | cons d others => exact (clear d (by simp)).2 (List.cons.inj equal).1.symm
      rcases escapeChar_cases c with ⟨written, quote, _⟩ | ⟨e, written, _⟩ |
        ⟨p, q, r, s, written, _⟩
      · rw [written] at same
        cases lead with
        | nil => exact absurd (List.cons.inj same).1 quote
        | cons d others =>
            exact ih (fun x member => clear x (List.mem_cons_of_mem d member))
              (List.cons.inj same).2
      · rw [written] at same
        exact absurd same (slash _)
      · rw [written] at same
        exact absurd same (slash _)

/-- Behind the quote that closes a text there is no key and no colon. -/
theorem not_key (follows : FollowsText rest) (front : after <+: rest) {key behind more : Str}
    (string : scanString after = some (key, behind)) : skipSpace behind ≠ code ':' :: more := by
  rcases follows with rfl | ⟨letter, last, rfl, alpha⟩
  · simp only [List.prefix_cons_iff, List.prefix_nil] at front
    rcases front with rfl | ⟨_, rfl, rfl⟩
    · cases string
    · cases string
  · rw [List.prefix_cons_iff] at front
    rcases front with rfl | ⟨next, rfl, front⟩
    · cases string
    rw [List.prefix_cons_iff] at front
    rcases front with rfl | ⟨next, rfl, front⟩
    · cases string
    have closed : scanString (code ',' :: code '"' :: next) = some ([code ','], next) :=
      @scanString_escaped [code ','] next
    rw [closed] at string
    cases string
    rw [List.prefix_cons_iff] at front
    rcases front with rfl | ⟨others, rfl, _⟩
    · rintro ⟨⟩
    · have visible : isJsonSpace letter = false := by
        rw [Bool.eq_false_iff]
        intro blank
        have found : letter = 32 ∨ letter = 9 ∨ letter = 10 ∨ letter = 13 := by
          simpa [isJsonSpace, or_assoc] using blank
        rcases found with rfl | rfl | rfl | rfl <;> exact absurd alpha (by decide)
      rw [skipSpace_cons visible]
      intro same
      rw [(List.cons.inj same).1] at alpha
      exact absurd alpha (by decide)

/-- What starts in a text of an object is not read as an object with members. -/
theorem loads_inside (follows : FollowsText rest)
    (front : lead ++ piece ++ trail <+: escaped part ++ code '"' :: rest)
    (clear : ∀ c ∈ lead, IsLead c) :
    loads readFloat depth piece ≠ .ok (.obj (entry :: fields)) := by
  intro read
  rcases loads_key read with ⟨gap, after, key, behind, more, rfl, blank, string, colon⟩
  rcases front with ⟨others, same⟩
  have clears : ∀ c ∈ lead ++ gap, IsLead c := by
    intro c member
    rcases List.mem_append.mp member with member | member
    · exact clear c member
    · exact blank c member
  have whole : escaped part ++ code '"' :: rest =
      (lead ++ gap) ++ code '"' :: (after ++ trail ++ others) := by
    rw [← same]
    simp
  have closes := quote_closes clears whole
  exact not_key follows ⟨trail ++ others, by rw [closes, List.append_assoc]⟩ string colon

end Inside

/-! ## Where an object can be cut -/

section Places

variable {c mark : CodePoint} {front text cut rest : Str} {member : Str × Scalar}
  {members : List (Str × Scalar)}

def IsAsciiText (text : Str) : Prop := ∀ c ∈ text, c < 128

theorem split_ascii (ascii : IsAsciiText text) (high : 128 ≤ mark)
    (same : text ++ rest = front ++ mark :: cut) :
    ∃ later, front = text ++ later ∧ rest = later ++ mark :: cut := by
  induction text generalizing front with
  | nil => exact ⟨front, rfl, same⟩
  | cons c more ih =>
      cases front with
      | nil =>
          have first : c = mark := (List.cons.inj same).1
          have low : c < 128 := ascii c (by simp)
          exact absurd (Nat.lt_of_lt_of_le low high) (by simp [first])
      | cons d others =>
          rcases List.cons.inj same with ⟨rfl, remains⟩
          rcases ih (fun x inside => ascii x (List.mem_cons_of_mem c inside)) remains with
            ⟨later, rfl, behind⟩
          exact ⟨later, rfl, behind⟩

theorem escapeChar_ascii : ∀ c < 128, IsAsciiText (escapeChar c) := by
  unfold IsAsciiText
  decide

theorem escapeChar_high (high : 128 ≤ c) : escapeChar c = [c] := by
  have other : ∀ low < 128, c ≠ low := by
    rintro low small rfl
    exact Nat.not_le.mpr small high
  have printable : ¬ c < 32 := Nat.not_lt.mpr (Nat.le_trans (by decide) high)
  simp only [escapeChar, if_neg (other _ (by decide : code '"' < 128)),
    if_neg (other _ (by decide : code '\\' < 128)), if_neg (other _ (by decide : 8 < 128)),
    if_neg (other _ (by decide : 9 < 128)), if_neg (other _ (by decide : 10 < 128)),
    if_neg (other _ (by decide : 12 < 128)), if_neg (other _ (by decide : 13 < 128)),
    if_neg printable]

theorem split_escaped (high : 128 ≤ mark)
    (same : escaped text ++ rest = front ++ mark :: cut) :
    (∃ before after, text = before ++ mark :: after ∧ front = escaped before ∧
      cut = escaped after ++ rest) ∨
      ∃ later, front = escaped text ++ later ∧ rest = later ++ mark :: cut := by
  induction text generalizing front with
  | nil => exact .inr ⟨front, rfl, same⟩
  | cons c more ih =>
      rw [escaped_cons, List.append_assoc] at same
      by_cases low : c < 128
      · rcases split_ascii (escapeChar_ascii c low) high same with ⟨later, rfl, behind⟩
        rcases ih behind with ⟨before, after, rfl, rfl, rfl⟩ | ⟨last, rfl, found⟩
        · exact .inl ⟨c :: before, after, rfl, rfl, rfl⟩
        · exact .inr ⟨last, by rw [escaped_cons, List.append_assoc], found⟩
      · have plain : escapeChar c = [c] := escapeChar_high (Nat.le_of_not_lt low)
        rw [plain] at same
        cases front with
        | nil =>
            rcases List.cons.inj same with ⟨rfl, remains⟩
            exact .inl ⟨[], more, rfl, rfl, remains.symm⟩
        | cons d others =>
            rcases List.cons.inj same with ⟨rfl, remains⟩
            rcases ih remains with ⟨before, after, rfl, rfl, rfl⟩ | ⟨last, rfl, found⟩
            · exact .inl ⟨c :: before, after, rfl, by rw [escaped_cons, plain]; rfl, rfl⟩
            · exact .inr ⟨last, by rw [escaped_cons, plain]; rfl, found⟩

/-- Keys that start with a letter and need no escapes -/
def PlainKeys (members : List (Str × Scalar)) : Prop :=
  ∀ member ∈ members, member.1.head?.any isAsciiAlpha = true ∧ IsAsciiText member.1

theorem IsAsciiText.cons (first : c < 128) (more : IsAsciiText text) : IsAsciiText (c :: text) := by
  intro d inside
  rcases List.mem_cons.mp inside with rfl | inside
  · exact first
  · exact more d inside

theorem IsAsciiText.append (first : IsAsciiText front) (second : IsAsciiText text) :
    IsAsciiText (front ++ text) := by
  intro d inside
  rcases List.mem_append.mp inside with inside | inside
  · exact first d inside
  · exact second d inside

theorem escaped_ascii (ascii : IsAsciiText text) : IsAsciiText (escaped text) := by
  intro c inside
  rcases List.mem_flatMap.mp inside with ⟨d, member, inside⟩
  exact escapeChar_ascii d (ascii d member) c inside

theorem intText_ascii {value : Int} : IsAsciiText (intText value) := by
  have digits : ∀ n, IsAsciiText (natText n) := by
    intro n c inside
    have digit := isAsciiDigit_of_mem_natText inside
    simp only [isAsciiDigit, Bool.and_eq_true, decide_eq_true_eq] at digit
    exact Nat.lt_of_le_of_lt digit.2 (by decide)
  cases value with
  | ofNat n => exact digits n
  | negSucc n => exact .cons (by decide) (digits (n + 1))

theorem quotedKey_ascii (ascii : IsAsciiText text) :
    IsAsciiText (code '"' :: (escaped text ++ [code '"', code ':'])) :=
  .cons (by decide) ((escaped_ascii ascii).append (by unfold IsAsciiText; decide))

theorem letters_plain : ∀ c < 128, isAsciiAlpha c = true → escapeChar c = [c] := by decide

theorem followsText_restText (plain : PlainKeys members) : FollowsText (restText members) := by
  cases members with
  | nil => exact .inl rfl
  | cons next more =>
      have known := (plain next (by simp)).1
      cases letters : next.1 with
      | nil => simp [letters] at known
      | cons letter others =>
          have alpha : isAsciiAlpha letter = true := by simpa [letters] using known
          have low : letter < 128 := (plain next (by simp)).2 letter (by simp [letters])
          have written : escapeChar letter = [letter] := letters_plain letter low alpha
          have shape : restText (next :: more) = code ',' :: code '"' :: letter ::
              (escaped others ++ code '"' :: code ':' :: (next.2.dumps ++ restText more)) := by
            rw [restText, memberText_append, letters, escaped_cons, written]
            rfl
          exact .inr ⟨letter, _, shape, alpha⟩

/-- A character that is not ASCII is in the text of the member or behind the member. -/
theorem split_member (ascii : IsAsciiText member.1) (high : 128 ≤ mark)
    (same : memberText member ++ rest = front ++ mark :: cut) :
    (∃ before after, member.2 = .text (before ++ mark :: after) ∧
      front = cutText [] member.1 (escaped before) ∧ cut = escaped after ++ code '"' :: rest) ∨
      ∃ later, front = memberText member ++ later ∧ rest = later ++ mark :: cut := by
  have parted : code '"' :: (escaped member.1 ++ [code '"', code ':']) ++
      (member.2.dumps ++ rest) = front ++ mark :: cut := by
    rw [← same, memberText_append]
    simp
  rcases split_ascii (quotedKey_ascii ascii) high parted with ⟨later, rfl, behind⟩
  cases value : member.2 with
  | text content =>
      rw [value, Scalar.dumps, quoted_eq] at behind
      have opened : [code '"'] ++ (escaped content ++ code '"' :: rest) = later ++ mark :: cut := by
        rw [← behind]
        simp
      have quote : IsAsciiText [code '"'] := by
        unfold IsAsciiText
        decide
      rcases split_ascii quote high opened with ⟨inner, rfl, remains⟩
      rcases split_escaped high remains with ⟨before, after, rfl, rfl, rfl⟩ | ⟨last, rfl, found⟩
      · exact .inl ⟨before, after, rfl, by simp [cutText], rfl⟩
      · have closed : [code '"'] ++ rest = last ++ mark :: cut := found
        rcases split_ascii quote high closed with ⟨final, rfl, beyond⟩
        refine .inr ⟨final, ?_, beyond⟩
        rw [memberText, value, Scalar.dumps, quoted_eq, quoted_eq]
        simp
  | number content =>
      rw [value] at behind
      rcases split_ascii intText_ascii high behind with ⟨final, rfl, found⟩
      refine .inr ⟨final, ?_, found⟩
      rw [memberText, value, quoted_eq, Scalar.dumps]
      simp

/-- A character that is not ASCII is in a text of the object. -/
theorem split_members (plain : PlainKeys (member :: members)) (high : 128 ≤ mark)
    (same : memberText member ++ restText members = front ++ mark :: cut) :
    ∃ earlier key before after later,
      member :: members = earlier ++ (key, .text (before ++ mark :: after)) :: later ∧
        front = cutText earlier key (escaped before) ∧
        cut = escaped after ++ code '"' :: restText later := by
  have ascii : IsAsciiText member.1 := (plain member (by simp)).2
  induction members generalizing member front with
  | nil =>
      rcases split_member ascii high same with ⟨before, after, value, rfl, rfl⟩ | ⟨later, rfl, found⟩
      · exact ⟨[], member.1, before, after, [], by simp [← value], rfl, rfl⟩
      · have brace : IsAsciiText (restText []) := by
          unfold IsAsciiText
          decide
        have parted : restText [] ++ [] = later ++ mark :: cut := by simpa using found
        rcases split_ascii brace high parted with ⟨_, _, impossible⟩
        simp at impossible
  | cons next more ih =>
      rcases split_member ascii high same with ⟨before, after, value, rfl, rfl⟩ | ⟨later, rfl, found⟩
      · exact ⟨[], member.1, before, after, next :: more, by simp [← value], rfl, rfl⟩
      · have comma : IsAsciiText [code ','] := by
          unfold IsAsciiText
          decide
        have others : [code ','] ++ (memberText next ++ restText more) = later ++ mark :: cut := found
        rcases split_ascii comma high others with ⟨final, rfl, beyond⟩
        rcases ih (fun entry inside => plain entry (List.mem_cons_of_mem _ inside)) beyond
          (plain next (by simp)).2 with ⟨earlier, key, before, after, rest, parted, rfl, rfl⟩
        refine ⟨member :: earlier, key, before, after, rest, by rw [parted]; rfl, ?_, rfl⟩
        simp [cutText]

/-- Where an object has a character that is not ASCII, it is cut in a text. -/
theorem split_objectText (plain : PlainKeys (member :: members)) (high : 128 ≤ mark)
    (same : objectText (member :: members) = front ++ mark :: cut) :
    ∃ earlier key before after later,
      member :: members = earlier ++ (key, .text (before ++ mark :: after)) :: later ∧
        front = code '\x7b' :: cutText earlier key (escaped before) ∧
        cut = escaped after ++ code '"' :: restText later := by
  have brace : IsAsciiText [code '\x7b'] := by
    unfold IsAsciiText
    decide
  rw [objectText_cons] at same
  rcases split_ascii brace high same with ⟨inner, rfl, behind⟩
  rcases split_members plain high behind with ⟨earlier, key, before, after, later, parted, rfl, rfl⟩
  exact ⟨earlier, key, before, after, later, parted, rfl, rfl⟩

/-! ## The characters of an object -/

def IsPrintable (text : Str) : Prop := ∀ c ∈ text, 32 ≤ c

theorem IsPrintable.append (first : IsPrintable front) (second : IsPrintable text) :
    IsPrintable (front ++ text) := by
  intro d inside
  rcases List.mem_append.mp inside with inside | inside
  · exact first d inside
  · exact second d inside

theorem IsPrintable.cons (first : 32 ≤ c) (more : IsPrintable text) : IsPrintable (c :: text) := by
  intro d inside
  rcases List.mem_cons.mp inside with rfl | inside
  · exact first
  · exact more d inside

theorem escaped_printable : IsPrintable (escaped text) := by
  have low : ∀ c < 128, ∀ d ∈ escapeChar c, 32 ≤ d := by decide
  intro d inside
  rcases List.mem_flatMap.mp inside with ⟨c, _, inside⟩
  by_cases ascii : c < 128
  · exact low c ascii d inside
  · rw [escapeChar_high (Nat.le_of_not_lt ascii), List.mem_singleton] at inside
    rw [inside]
    exact Nat.le_trans (by decide) (Nat.le_of_not_lt ascii)

theorem quoted_printable : IsPrintable (quoted text) :=
  .cons (by decide) (escaped_printable.append (.cons (by decide) (by simp [IsPrintable])))

theorem intText_printable {value : Int} : IsPrintable (intText value) := by
  have digits : ∀ n, IsPrintable (natText n) := by
    intro n c inside
    have digit := isAsciiDigit_of_mem_natText inside
    simp only [isAsciiDigit, Bool.and_eq_true, decide_eq_true_eq] at digit
    exact Nat.le_trans (by decide) digit.1
  cases value with
  | ofNat n => exact digits n
  | negSucc n => exact .cons (by decide) (digits (n + 1))

theorem memberText_printable : IsPrintable (memberText member) := by
  apply quoted_printable.append
  apply IsPrintable.cons (by decide)
  cases member.2 with
  | text value => exact quoted_printable
  | number value => exact intText_printable

theorem objectText_printable : IsPrintable (objectText (member :: members)) := by
  have behind : IsPrintable (restText members) := by
    induction members with
    | nil => exact .cons (by decide) (by simp [IsPrintable])
    | cons next more ih => exact .cons (by decide) (memberText_printable.append ih)
  rw [objectText_cons]
  exact .cons (by decide) (memberText_printable.append behind)

theorem mem_restText (occurs : member ∈ members) (inside : c ∈ memberText member) :
    c ∈ restText members := by
  induction members with
  | nil => cases occurs
  | cons next more ih =>
      rw [restText]
      rcases List.mem_cons.mp occurs with rfl | occurs
      · simp [inside]
      · simp [ih occurs]

/-- A character of a text that needs no escape is in the text of the object. -/
theorem mem_objectText {first : Str × Scalar} {key content : Str} (high : 128 ≤ c)
    (occurs : (key, Scalar.text content) ∈ first :: members) (inside : c ∈ content) :
    c ∈ objectText (first :: members) := by
  have written : c ∈ memberText (key, Scalar.text content) := by
    have kept : c ∈ escaped content := by
      apply List.mem_flatMap.mpr
      exact ⟨c, inside, by simp [escapeChar_high high]⟩
    rw [memberText, Scalar.dumps, quoted_eq, quoted_eq]
    simp [kept]
  rw [objectText_cons, List.mem_cons, List.mem_append]
  rcases List.mem_cons.mp occurs with same | occurs
  · rw [← same]
    exact .inr (.inl written)
  · exact .inr (.inr (mem_restText occurs written))

end Places

end Python
