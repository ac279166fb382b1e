import OpnsensePlugin.Python.IpAddress
import OpnsensePlugin.Python.Split

/-!
# Characters of an address literal

An address consists of hexadecimal digits, dots and colons, up to the zone of an
IPv6 literal. The zone may be any text without a slash or a second percent sign.
-/

namespace Python

variable {text : Str}

/-- The characters of an address without a zone -/
def isAddressDigit (c : CodePoint) : Bool := isHexDigit c || c = code '.' || c = code ':'

theorem isHexDigit_of_isAsciiDigit {c : CodePoint} (digit : isAsciiDigit c = true) :
    isHexDigit c = true := by
  simp [isHexDigit, digit]

/-- A text whose parts consist of address characters consists of them itself. -/
theorem addressDigits_of_parts {separator : CodePoint} (splits : isAddressDigit separator = true)
    (parts : ∀ part ∈ splitOn separator text, ∀ c ∈ part, isAddressDigit c = true) :
    ∀ c ∈ text, isAddressDigit c = true := by
  intro c member
  rw [← @join_splitOn separator text] at member
  rcases mem_join member with rfl | ⟨part, listed, inside⟩
  · exact splits
  · exact parts part listed c inside

theorem parseOctet_digits {value : Nat} (octet : parseOctet text = some value) :
    ∀ c ∈ text, isAddressDigit c = true := by
  rw [parseOctet] at octet
  split at octet
  · cases octet
  · rename_i plain
    simp only [Bool.or_eq_true, Bool.not_eq_true', not_or, Bool.not_eq_false,
      List.all_eq_true] at plain
    intro c member
    simp [isAddressDigit, isHexDigit_of_isAsciiDigit (plain.1.2 c member)]

theorem parseIpv4_digits {value : Nat} (address : parseIpv4 text = some value) :
    ∀ c ∈ text, isAddressDigit c = true := by
  rw [parseIpv4] at address
  split at address
  · cases address
  · split at address
    · rename_i a b c d parts
      simp only [Option.bind_eq_bind, Option.bind_eq_some_iff] at address
      rcases address with ⟨_, first, _, second, _, third, _, fourth, _⟩
      apply addressDigits_of_parts (show isAddressDigit (code '.') = true by decide)
      rw [parts]
      intro part member
      simp only [List.mem_cons, List.not_mem_nil, or_false] at member
      rcases member with rfl | rfl | rfl | rfl
      · exact parseOctet_digits first
      · exact parseOctet_digits second
      · exact parseOctet_digits third
      · exact parseOctet_digits fourth
    · cases address

theorem joinHextets_digits {parts : List Str} {start value : Nat}
    (joined : joinHextets start parts = some value) :
    ∀ part ∈ parts, ∀ c ∈ part, isAddressDigit c = true := by
  induction parts generalizing start with
  | nil => simp
  | cons part rest ih =>
      rw [joinHextets, List.foldlM_cons, Option.bind_eq_bind, Option.bind_eq_some_iff] at joined
      rcases joined with ⟨next, first, joined⟩
      rcases Option.map_eq_some_iff.mp first with ⟨_, hextet, _⟩
      intro other member
      rcases List.mem_cons.mp member with rfl | member
      · rw [parseHextet] at hextet
        split at hextet
        · cases hextet
        · rename_i plain
          simp only [Bool.or_eq_true, Bool.not_eq_true', not_or, Bool.not_eq_false,
            List.all_eq_true] at plain
          intro c inside
          simp [isAddressDigit, plain.1 c inside]
      · exact ih joined other member

/-- The parts of the text that the parts of the literal do not hold are a dotted quad. -/
theorem hextetParts_digits {parts : List Str} (split : hextetParts text = some parts)
    (hextets : ∀ part ∈ parts, ∀ c ∈ part, isAddressDigit c = true) :
    ∀ c ∈ text, isAddressDigit c = true := by
  apply addressDigits_of_parts (show isAddressDigit (code ':') = true by decide)
  simp only [hextetParts] at split
  split at split
  · cases split
  · split at split
    · rcases Option.bind_eq_some_iff.mp split with ⟨value, quad, same⟩
      cases same
      have some := @splitOn_ne_nil (code ':') text
      intro part member
      rw [← List.dropLast_append_getLast some, List.mem_append, List.mem_singleton] at member
      rcases member with front | rfl
      · exact hextets part (List.mem_append_left _ front)
      · rw [List.getLastD_eq_getLast?, List.getLast?_eq_getLast_of_ne_nil some,
          Option.getD_some] at quad
        exact parseIpv4_digits quad
    · cases split
      exact hextets

/-- The parts on one side of the `::`: an empty outer part must be the only one. -/
def sideParts (outer : Str) (side : List Str) : Option (List Str) :=
  if outer.isEmpty then (if side.length ≠ 1 then none else some []) else some side

theorem sideParts_digits {outer : Str} {side kept : List Str} (chosen : sideParts outer side = some kept)
    (outermost : ∀ part, side = [part] → part = outer)
    (digits : ∀ part ∈ kept, ∀ c ∈ part, isAddressDigit c = true) :
    ∀ part ∈ side, ∀ c ∈ part, isAddressDigit c = true := by
  rw [sideParts] at chosen
  split at chosen
  · rename_i empty
    split at chosen
    · cases chosen
    · rename_i one
      rcases List.length_eq_one_iff.mp (not_not.mp one) with ⟨part, only⟩
      have nothing : part = [] := (outermost part only).trans (List.isEmpty_iff.mp empty)
      intro other member
      rw [only, List.mem_singleton] at member
      rw [member, nothing]
      simp
  · cases chosen
    exact digits

theorem mem_around {parts : List Str} {skip : Nat} {part : Str} (inside : skip < parts.length)
    (member : part ∈ parts) :
    part ∈ parts.take skip ∨ part = parts.getD skip [] ∨ part ∈ parts.drop (skip + 1) := by
  rw [← List.take_append_drop skip parts, List.mem_append, List.drop_eq_getElem_cons inside,
    List.mem_cons] at member
  rcases member with front | same | back
  · exact .inl front
  · refine .inr (.inl ?_)
    rw [same, List.getD_eq_getElem?_getD, List.getElem?_eq_getElem inside]
    rfl
  · exact .inr (.inr back)

theorem eq_headD_of_take {parts : List Str} {skip : Nat} {part : Str} (positive : 0 < skip)
    (only : parts.take skip = [part]) : part = parts.headD [] := by
  cases parts with
  | nil => simp at only
  | cons head rest =>
      rw [List.take_cons positive] at only
      exact (List.cons.inj only).1.symm

theorem eq_getLastD_of_drop {parts : List Str} {skip : Nat} {part : Str}
    (only : parts.drop (skip + 1) = [part]) : part = parts.getLastD [] := by
  have last : (parts.drop (skip + 1)).getLast? = some part := by
    rw [only]
    rfl
  rw [List.getLast?_drop] at last
  split at last
  · cases last
  · rw [List.getLastD_eq_getLast?, last]
    rfl

theorem parseIpv6Digits_digits {value : Nat} (address : parseIpv6Digits text = some value) :
    ∀ c ∈ text, isAddressDigit c = true := by
  rw [parseIpv6Digits, Option.bind_eq_bind, Option.bind_eq_some_iff] at address
  rcases address with ⟨parts, split, address⟩
  apply hextetParts_digits split
  dsimp only at address
  split at address
  · cases address
  split at address
  · split at address
    · cases address
    · exact joinHextets_digits address
  · rename_i skip inner
    have chosen : skip ∈ (List.range parts.length).filter fun i =>
        0 < i && i + 1 < parts.length && (parts.getD i []).isEmpty := by
      rw [inner]
      exact List.mem_singleton_self skip
    simp only [List.mem_filter, Bool.and_eq_true, decide_eq_true_eq, List.isEmpty_iff] at chosen
    rcases chosen with ⟨_, ⟨after, before⟩, empty⟩
    have sides : ∃ high low start, sideParts (parts.headD []) (parts.take skip) = some high ∧
        sideParts (parts.getLastD []) (parts.drop (skip + 1)) = some low ∧
        joinHextets 0 high = some start ∧ ∃ shift, joinHextets shift low = some value := by
      have joined : ∀ {high low : List Str},
          (if 8 < high.length + low.length + 1 then none
          else (joinHextets 0 high).bind fun start =>
            joinHextets (start * 65536 ^ (8 - (high.length + low.length))) low) = some value →
          ∃ start, joinHextets 0 high = some start ∧ ∃ shift, joinHextets shift low = some value := by
        intro high low joined
        split at joined
        · cases joined
        · rcases Option.bind_eq_some_iff.mp joined with ⟨start, first, second⟩
          exact ⟨start, first, _, second⟩
      split at address
      all_goals
        rename_i left
        rcases Option.bind_eq_some_iff.mp address with ⟨high, chosenHigh, address⟩
        split at address
        all_goals
          rename_i right
          rcases Option.bind_eq_some_iff.mp address with ⟨low, chosenLow, address⟩
          rcases joined address with ⟨start, first, second⟩
          refine ⟨high, low, start, ?_, ?_, first, second⟩
          · simpa only [sideParts, left, if_true, if_false, Bool.false_eq_true] using chosenHigh
          · simpa only [sideParts, right, if_true, if_false, Bool.false_eq_true] using chosenLow
    rcases sides with ⟨high, low, start, chosenHigh, chosenLow, first, _, second⟩
    have front := sideParts_digits chosenHigh (fun _ => eq_headD_of_take after)
      (joinHextets_digits first)
    have back := sideParts_digits chosenLow (fun _ => eq_getLastD_of_drop)
      (joinHextets_digits second)
    intro part member
    rcases mem_around (Nat.lt_of_succ_lt before) member with member | same | member
    · exact front part member
    · rw [same, empty]
      simp
    · exact back part member
  · cases address

/-- An address consists of address characters up to the zone, which is any text. -/
theorem ipAddress_digits {address : IpAddress} (literal : ipAddress text = some address) :
    ∀ c ∈ (partition (code '%') text).1, isAddressDigit c = true := by
  rw [ipAddress] at literal
  split at literal
  · rename_i value quad
    intro c member
    exact parseIpv4_digits quad c (mem_of_mem_partition member)
  · rcases Option.map_eq_some_iff.mp literal with ⟨_, parsed, _⟩
    rw [parseIpv6] at parsed
    split at parsed
    · cases parsed
    · split at parsed
      · rename_i digits zone
        rcases Option.map_eq_some_iff.mp parsed with ⟨_, parsed, _⟩
        rw [zone]
        exact parseIpv6Digits_digits parsed
      · rename_i digits scope zone
        split at parsed
        · cases parsed
        · rcases Option.map_eq_some_iff.mp parsed with ⟨_, parsed, _⟩
          rw [zone]
          exact parseIpv6Digits_digits parsed

theorem mem_of_partition_rest {separator c : CodePoint} {rest : Str}
    (found : (partition separator text).2 = some rest) (member : c ∈ rest) : c ∈ text := by
  induction text with
  | nil => cases found
  | cons head tail ih =>
      rw [partition] at found
      split at found
      · cases found
        exact List.mem_cons_of_mem _ member
      · exact List.mem_cons_of_mem _ (ih found)

theorem mem_partition {separator c : CodePoint} (member : c ∈ text) :
    c ∈ (partition separator text).1 ∨ c = separator ∨
      ∃ rest, (partition separator text).2 = some rest ∧ c ∈ rest := by
  induction text with
  | nil => cases member
  | cons head rest ih =>
      rw [partition]
      split
      · rename_i same
        rcases List.mem_cons.mp member with rfl | member
        · exact .inr (.inl same)
        · exact .inr (.inr ⟨rest, rfl, member⟩)
      · rcases List.mem_cons.mp member with rfl | member
        · exact .inl List.mem_cons_self
        · rcases ih member with inside | same | ⟨tail, found, inside⟩
          · exact .inl (List.mem_cons_of_mem _ inside)
          · exact .inr (.inl same)
          · exact .inr (.inr ⟨tail, found, inside⟩)

end Python
