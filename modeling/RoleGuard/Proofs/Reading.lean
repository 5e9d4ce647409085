import RoleGuard.Proofs.Tokens

/-!
# The reader of documents and their grammar

What the reader accepts is a document of the grammar with the value that it
gives, by induction on its fuel; and what the grammar spells is read with its
value, by induction on how it is spelled, unless one of the reader's limits is
met.  No value starts with a blank or a closing bracket, so the reader finds
every part where the grammar has it.
-/

namespace RoleGuard

namespace Document

/-! ## How values are read -/

section

variable {room fuel : Nat} {source rest : List Char}

theorem readValue_text : readValue room (fuel + 1) ('"' :: rest) = (do
    let (s, rest) ← readText ('"' :: rest) fuel [] rest
    return (.text s, rest)) := by
  rw [readValue]

theorem readValue_array : readValue (room + 1) (fuel + 1) ('[' :: rest) =
    match skipBlanks rest with
    | ']' :: rest => .ok (.sequence .list [], rest)
    | rest => readItems room fuel [] rest :=
  rfl

theorem readValue_object : readValue (room + 1) (fuel + 1) ('{' :: rest) =
    match skipBlanks rest with
    | '}' :: rest => .ok (.map [], rest)
    | rest => readMembers room fuel [] rest :=
  rfl

theorem readValue_array_zero : readValue 0 (fuel + 1) ('[' :: rest) =
    .error (.nestedTooDeep .array) := by
  rw [readValue]

theorem readValue_object_zero : readValue 0 (fuel + 1) ('{' :: rest) =
    .error (.nestedTooDeep .object) := by
  rw [readValue]

theorem readValue_scalar (noText : ∀ rest, source ≠ '"' :: rest)
    (noArray : ∀ rest, source ≠ '[' :: rest)
    (noObject : ∀ rest, source ≠ '{' :: rest) :
    readValue room (fuel + 1) source = readScalar source := by
  rw [readValue]
  · exact noText
  · exact fun _ _ => noArray _
  · exact fun _ _ => noObject _
  · exact fun _ _ _ => noArray _
  · exact fun _ _ _ => noObject _

theorem readValue_of_isScalarHead {c : Char} {others : List Char}
    (head : isScalarHead c = true) :
    readValue room (fuel + 1) (c :: others) = readScalar (c :: others) := by
  apply readValue_scalar
  all_goals
    intro rest same
    cases same
    cases head

end

/-- Reads a colon and goes on after it. -/
def readColon {α : Type} (source : List Char)
    (next : List Char → Except ReadFault α) : Except ReadFault α :=
  match source with
  | ':' :: rest => next rest
  | rest => .error (.malformed .colon rest.length)

theorem readColon_bind {α β : Type} (source : List Char)
    (next : List Char → Except ReadFault α) (finish : α → Except ReadFault β) :
    (readColon source next >>= finish) =
      readColon source fun rest => next rest >>= finish := by
  unfold readColon
  split <;> rfl

theorem readColon_eq_ok_iff {α : Type} {source : List Char}
    {next : List Char → Except ReadFault α} {a : α} :
    readColon source next = .ok a ↔
      ∃ rest, source = ':' :: rest ∧ next rest = .ok a := by
  unfold readColon
  split
  · simp
  · rename_i noColon
    constructor
    · intro ended
      cases ended
    · rintro ⟨rest, same, _⟩
      exact absurd same (noColon rest)

/-- Reads the name and the value of a member. -/
def readMember (room fuel : Nat) (source : List Char) :
    Except ReadFault ((Value × Value) × List Char) :=
  match source with
  | '"' :: rest => do
      let (name, rest) ← readText ('"' :: rest) fuel [] rest
      readColon (skipBlanks rest) fun rest => do
        let (v, rest) ← readValue room fuel (skipBlanks rest)
        return ((.text name, v), rest)
  | source => .error (.malformed .memberName source.length)

/-- Members are read one by one. -/
theorem readMembers_succ (room fuel : Nat) (before : List (Value × Value))
    (source : List Char) :
    readMembers room (fuel + 1) before source = (do
      let (member, rest) ← readMember room fuel source
      match skipBlanks rest with
      | '}' :: rest =>
          .ok (.map (Value.entriesOf (member :: before).reverse), rest)
      | ',' :: rest =>
          readMembers room fuel (member :: before) (skipBlanks rest)
      | rest => .error (.malformed .comma rest.length)) := by
  unfold readMember
  split
  · rename_i rest
    rw [readMembers]
    cases readText ('"' :: rest) fuel [] rest with
    | error fault => rfl
    | ok name =>
        obtain ⟨name, between⟩ := name
        simp only [ok_bind, readColon_bind, bind_assoc, pure_bind]
        rfl
  · rename_i noName
    rw [readMembers]
    · rfl
    · exact noName

/-! ## What is read is spelled -/

/-- What is read as a member is spelled as one, if values are. -/
theorem spellsMember_of_readMember {room fuel : Nat} {source rest : List Char}
    {member : Value × Value}
    (values : ∀ {source rest : List Char} {v : Value},
      readValue room fuel source = .ok (v, rest) → Spells source v rest)
    (reads : readMember room fuel source = .ok (member, rest)) :
    SpellsMember source member rest := by
  unfold readMember at reads
  split at reads
  · obtain ⟨⟨name, colon⟩, readsName, reads⟩ := bind_eq_ok_iff.mp reads
    obtain ⟨points, rfl, spellsName⟩ := spellsText_of_readText readsName
    obtain ⟨spelled, skips, reads⟩ := readColon_eq_ok_iff.mp reads
    obtain ⟨⟨v, after⟩, readsValue, ended⟩ := bind_eq_ok_iff.mp reads
    cases ended
    exact .intro (.refl _) spellsName (blanks_of_skipBlanks skips)
      (blanks_skipBlanks spelled) (values readsValue)
  · cases reads

mutual

/-- What is read as a value is spelled as one. -/
theorem spells_of_readValue {room fuel : Nat} {source rest : List Char}
    {v : Value} (reads : readValue room fuel source = .ok (v, rest)) :
    Spells source v rest := by
  match fuel with
  | 0 => cases reads
  | fuel + 1 =>
      by_cases isText : ∃ others, source = '"' :: others
      · obtain ⟨others, rfl⟩ := isText
        rw [readValue_text] at reads
        obtain ⟨⟨s, between⟩, readsText, ended⟩ := bind_eq_ok_iff.mp reads
        cases ended
        obtain ⟨points, rfl, spells⟩ := spellsText_of_readText readsText
        exact .text spells
      by_cases isArray : ∃ others, source = '[' :: others
      · obtain ⟨others, rfl⟩ := isArray
        match room with
        | 0 => rw [readValue_array_zero] at reads; cases reads
        | room + 1 =>
            rw [readValue_array] at reads
            split at reads
            · rename_i skips
              cases reads
              exact .emptyArray (blanks_of_skipBlanks skips)
            · obtain ⟨items, rfl, spells⟩ := spellsItems_of_readItems reads
              exact .array (spells.of_blanks (blanks_skipBlanks others))
      by_cases isObject : ∃ others, source = '{' :: others
      · obtain ⟨others, rfl⟩ := isObject
        match room with
        | 0 => rw [readValue_object_zero] at reads; cases reads
        | room + 1 =>
            rw [readValue_object] at reads
            split at reads
            · rename_i skips
              cases reads
              exact .emptyObject (blanks_of_skipBlanks skips)
            · obtain ⟨members, rfl, spells⟩ :=
                spellsMembers_of_readMembers reads
              exact .object (spells.of_blanks (blanks_skipBlanks others))
      rw [readValue_scalar (fun _ same => isText ⟨_, same⟩)
        (fun _ same => isArray ⟨_, same⟩)
        (fun _ same => isObject ⟨_, same⟩)] at reads
      exact spells_of_readScalar reads

theorem spellsItems_of_readItems {room fuel : Nat} {source rest : List Char}
    {before : List Value} {v : Value}
    (reads : readItems room fuel before source = .ok (v, rest)) :
    ∃ items, v = .sequence .list (before.reverse ++ items) ∧
      SpellsItems source items rest := by
  match fuel with
  | 0 => cases reads
  | fuel + 1 =>
      rw [readItems] at reads
      obtain ⟨⟨item, after⟩, readsItem, ended⟩ := bind_eq_ok_iff.mp reads
      have spellsItem := spells_of_readValue readsItem
      dsimp only at ended
      split at ended
      · rename_i skips
        cases ended
        exact ⟨[item], by simp,
          .last (.refl source) spellsItem (blanks_of_skipBlanks skips)⟩
      · rename_i others skips
        obtain ⟨items, rfl, spells⟩ := spellsItems_of_readItems ended
        exact ⟨item :: items, by simp,
          .more (.refl source) spellsItem (blanks_of_skipBlanks skips)
            (spells.of_blanks (blanks_skipBlanks others))⟩
      · cases ended

theorem spellsMembers_of_readMembers {room fuel : Nat}
    {source rest : List Char} {before : List (Value × Value)} {v : Value}
    (reads : readMembers room fuel before source = .ok (v, rest)) :
    ∃ members, v = .map (Value.entriesOf (before.reverse ++ members)) ∧
      SpellsMembers source members rest := by
  match fuel with
  | 0 => cases reads
  | fuel + 1 =>
      rw [readMembers_succ] at reads
      obtain ⟨⟨member, after⟩, readsMember, ended⟩ := bind_eq_ok_iff.mp reads
      have spellsMember := spellsMember_of_readMember
        (fun reads => spells_of_readValue reads) readsMember
      dsimp only at ended
      split at ended
      · rename_i skips
        cases ended
        exact ⟨[member], by simp,
          .last spellsMember (blanks_of_skipBlanks skips)⟩
      · rename_i others skips
        obtain ⟨members, rfl, spells⟩ := spellsMembers_of_readMembers ended
        exact ⟨member :: members, by simp,
          .more spellsMember (blanks_of_skipBlanks skips)
            (spells.of_blanks (blanks_skipBlanks others))⟩
      · cases ended

end

/-! ## What is spelled is read -/

/-- Blanks are skipped up to a value. -/
theorem Spells.skipBlanks_eq {source start rest : List Char} {v : Value}
    (spells : Spells start v rest) (blanks : Blanks source start) :
    skipBlanks source = start := by
  obtain ⟨c, others, rfl, head⟩ := spells.exists_isHead
  simp only [isHead, Bool.and_eq_true, Bool.not_eq_true'] at head
  exact blanks.skipBlanks_eq (.cons head.1.1)

theorem SpellsItems.skipBlanks_ne {source rest : List Char}
    {items : List Value} (spells : SpellsItems source items rest)
    (others : List Char) : skipBlanks source ≠ ']' :: others := by
  have apart : ∀ {start item after}, Blanks source start →
      Spells start item after → skipBlanks source ≠ ']' :: others := by
    intro start item after blanks spellsItem closes
    rw [spellsItem.skipBlanks_eq blanks] at closes
    obtain ⟨c, more, same, head⟩ := spellsItem.exists_isHead
    cases closes.symm.trans same
    cases head
  cases spells with
  | last before item _ => exact apart before item
  | more before item _ _ => exact apart before item

theorem SpellsMembers.skipBlanks_ne {source rest : List Char}
    {members : List (Value × Value)}
    (spells : SpellsMembers source members rest) (others : List Char) :
    skipBlanks source ≠ '}' :: others := by
  have apart : ∀ {member after}, SpellsMember source member after →
      skipBlanks source ≠ '}' :: others := by
    intro member after spellsMember closes
    cases spellsMember with
    | intro before _ _ _ _ =>
        rw [before.skipBlanks_eq (.cons rfl)] at closes
        cases closes
  cases spells with
  | last member _ => exact apart member
  | more member _ _ => exact apart member

mutual

/-- A value is read as it is spelled, unless a limit is met. -/
theorem Spells.reaches {source rest : List Char} {v : Value}
    (spells : Spells source v rest) (stops : Stops isNumeric rest)
    {room fuel : Nat} (enough : 2 * source.length + 1 ≤ fuel) :
    Reaches (v, rest) (readValue room fuel source) := by
  obtain ⟨fuel, rfl⟩ : ∃ less, fuel = less + 1 := ⟨fuel - 1, by omega⟩
  match spells with
  | .literal member =>
      have reads := readScalar_literal member rest
      obtain ⟨c, others, same, head⟩ := exists_isScalarHead_literal member rest
      rw [same] at reads ⊢
      rw [readValue_of_isScalarHead head, reads]
      exact .read
  | .number digits =>
      have reads := reaches_readScalar_number digits stops
      obtain ⟨c, others, same, head⟩ := digits.exists_isScalarHead rest
      rw [same] at reads ⊢
      rw [readValue_of_isScalarHead head]
      exact reads
  | .text spelled =>
      simp only [List.length_cons] at enough
      rw [readValue_text, spelled.readText_eq (by omega)]
      exact .read
  | .emptyArray blanks =>
      cases room with
      | zero => rw [readValue_array_zero]; exact .nestedTooDeep
      | succ room =>
          rw [readValue_array, blanks.skipBlanks_eq (.cons rfl)]
          exact .read
  | .array items =>
      simp only [List.length_cons] at enough
      cases room with
      | zero => rw [readValue_array_zero]; exact .nestedTooDeep
      | succ room =>
          have reads := items.reaches [] room fuel (by omega)
          rw [readValue_array]
          split
          · rename_i closes
            exact absurd closes (items.skipBlanks_ne _)
          · exact reads
  | .emptyObject blanks =>
      cases room with
      | zero => rw [readValue_object_zero]; exact .nestedTooDeep
      | succ room =>
          rw [readValue_object, blanks.skipBlanks_eq (.cons rfl)]
          exact .read
  | .object members =>
      simp only [List.length_cons] at enough
      cases room with
      | zero => rw [readValue_object_zero]; exact .nestedTooDeep
      | succ room =>
          have reads := members.reaches [] room fuel (by omega)
          rw [readValue_object]
          split
          · rename_i closes
            exact absurd closes (members.skipBlanks_ne _)
          · exact reads

theorem SpellsItems.reaches {source rest : List Char} {items : List Value}
    (spells : SpellsItems source items rest) (before : List Value)
    (room fuel : Nat) (enough : 2 * source.length + 2 ≤ fuel) :
    Reaches (.sequence .list (before.reverse ++ items), rest)
      (readItems room fuel before (skipBlanks source)) := by
  obtain ⟨fuel, rfl⟩ : ∃ less, fuel = less + 1 := ⟨fuel - 1, by omega⟩
  match spells with
  | @SpellsItems.last _ start after _ item blanks spellsItem closes =>
      have shorter := blanks.length_le
      have stops : Stops isNumeric after := closes.stops (.cons rfl)
      rw [spellsItem.skipBlanks_eq blanks, readItems]
      apply (spellsItem.reaches stops (by omega)).bind
      dsimp only
      rw [closes.skipBlanks_eq (.cons rfl), List.reverse_cons]
      exact .read
  | @SpellsItems.more _ start after others _ item items blanks spellsItem
      goesOn spellsOthers =>
      have shorter := blanks.length_le
      have shorterAfter := spellsItem.length_lt
      have shorterOthers := goesOn.length_le
      rw [List.length_cons] at shorterOthers
      have stops : Stops isNumeric after := goesOn.stops (.cons rfl)
      have reads := spellsOthers.reaches (item :: before) room fuel (by omega)
      rw [List.reverse_cons, List.append_assoc] at reads
      rw [spellsItem.skipBlanks_eq blanks, readItems]
      apply (spellsItem.reaches stops (by omega)).bind
      dsimp only
      rw [goesOn.skipBlanks_eq (.cons rfl)]
      exact reads

theorem SpellsMember.reaches {source rest : List Char}
    {member : Value × Value} (spells : SpellsMember source member rest)
    (stops : Stops isNumeric rest) (room fuel : Nat)
    (enough : 2 * source.length + 1 ≤ fuel) :
    Reaches (member, rest) (readMember room fuel (skipBlanks source)) := by
  match spells with
  | @SpellsMember.intro _ name colon spelled start _ points v blanks
      spellsName separates follows spellsValue =>
      have shorter := blanks.length_le
      have shorterColon := spellsName.length_lt
      have shorterSpelled := separates.length_le
      have shorterStart := follows.length_le
      simp only [List.length_cons] at shorter shorterSpelled
      have reads := @Spells.reaches _ _ _ spellsValue stops room fuel (by omega)
      rw [blanks.skipBlanks_eq (.cons rfl), readMember,
        spellsName.readText_eq (by omega), ok_bind]
      dsimp only
      rw [separates.skipBlanks_eq (.cons rfl)]
      change Reaches _ (readValue room fuel (skipBlanks spelled) >>= _)
      rw [spellsValue.skipBlanks_eq follows]
      exact reads.bind .read

theorem SpellsMembers.reaches {source rest : List Char}
    {members : List (Value × Value)}
    (spells : SpellsMembers source members rest)
    (before : List (Value × Value)) (room fuel : Nat)
    (enough : 2 * source.length + 2 ≤ fuel) :
    Reaches (.map (Value.entriesOf (before.reverse ++ members)), rest)
      (readMembers room fuel before (skipBlanks source)) := by
  obtain ⟨fuel, rfl⟩ : ∃ less, fuel = less + 1 := ⟨fuel - 1, by omega⟩
  match spells with
  | @SpellsMembers.last _ after _ member spellsMember closes =>
      have stops : Stops isNumeric after := closes.stops (.cons rfl)
      rw [readMembers_succ]
      apply (spellsMember.reaches stops room fuel (by omega)).bind
      dsimp only
      rw [closes.skipBlanks_eq (.cons rfl), List.reverse_cons]
      exact .read
  | @SpellsMembers.more _ after others _ member members spellsMember goesOn
      spellsOthers =>
      have shorterAfter := spellsMember.length_lt
      have shorterOthers := goesOn.length_le
      rw [List.length_cons] at shorterOthers
      have stops : Stops isNumeric after := goesOn.stops (.cons rfl)
      have reads := spellsOthers.reaches (member :: before) room fuel (by omega)
      rw [List.reverse_cons, List.append_assoc] at reads
      rw [readMembers_succ]
      apply (spellsMember.reaches stops room fuel (by omega)).bind
      dsimp only
      rw [goesOn.skipBlanks_eq (.cons rfl)]
      exact reads

end

/-! ## Documents -/

/-- What is read is spelled. -/
theorem spellsDocument_of_read {room : Nat} {source : List Char} {v : Value}
    (reads : read room source = .ok v) : SpellsDocument source v := by
  unfold read at reads
  split at reads
  · cases reads
  · obtain ⟨⟨_, after⟩, readsValue, ended⟩ := bind_eq_ok_iff.mp reads
    dsimp only at ended
    split at ended
    · rename_i skips
      cases ended
      exact ⟨_, after, blanks_skipBlanks source, spells_of_readValue readsValue,
        blanks_of_skipBlanks skips⟩
    · cases ended

/-- What is spelled is read, unless a limit is met. -/
theorem SpellsDocument.reaches {source : List Char} {v : Value}
    (spells : SpellsDocument source v) (room : Nat) :
    Reaches v (read room source) := by
  obtain ⟨start, after, blanks, spellsValue, ends⟩ := spells
  have stops : Stops isNumeric after := ends.stops nofun
  have skips := spellsValue.skipBlanks_eq blanks
  unfold read
  split
  · obtain ⟨before, areBlank, same⟩ := blanks
    cases before with
    | nil =>
        obtain ⟨c, others, rfl, head⟩ := spellsValue.exists_isHead
        cases same
        cases head
    | cons c others =>
        cases same
        cases areBlank _ List.mem_cons_self
  · dsimp only
    rw [skips]
    apply (spellsValue.reaches stops (by omega)).bind
    dsimp only
    rw [ends.skipBlanks_eq nofun]
    exact .read

/-- The reader, which has room for so many brackets, meets none of its limits:
it reads a document or finds it malformed. -/
def KeepsLimits (room : Nat) (source : List Char) : Prop :=
  ∀ fault, read room source = .error fault →
    ∃ cause remaining, fault = .malformed cause remaining

/-- Within its limits the reader accepts exactly what spells a document, and
gives what it spells. -/
theorem read_eq_ok_iff {room : Nat} {source : List Char} {v : Value}
    (keeps : KeepsLimits room source) :
    read room source = .ok v ↔ SpellsDocument source v := by
  constructor
  · exact spellsDocument_of_read
  · intro spells
    have reaches := spells.reaches room
    generalize ended : read room source = result at reaches
    cases reaches with
    | read => rfl
    | integerTooLong =>
        obtain ⟨_, _, same⟩ := keeps _ ended
        cases same
    | nestedTooDeep =>
        obtain ⟨_, _, same⟩ := keeps _ ended
        cases same

end Document

end RoleGuard
