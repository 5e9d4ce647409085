import RoleGuard.Proofs.Running
import RoleGuard.Proofs.Spelling

/-!
# Texts and numbers as they are read

The parts of a document without brackets, each in both directions: what the
reader takes for a text or a number is spelled as one, and what is spelled as
one is read.  The second needs that a part stops where it ends: what follows a
number must not belong to it, and a text goes on after an escaped code.  An
integer may be too long to be read.
-/

namespace RoleGuard

theorem ok_bind {ε α β : Type} {a : α} {next : α → Except ε β} :
    (Except.ok a >>= next) = next a :=
  rfl

namespace Document

/-- How a reading ends that comes to a result, unless it meets a limit. -/
inductive Reaches {α : Type} (a : α) : Except ReadFault α → Prop where
  | read : Reaches a (.ok a)
  | integerTooLong {digits : Nat} : Reaches a (.error (.integerTooLong digits))
  | nestedTooDeep {bracket : Bracket} :
      Reaches a (.error (.nestedTooDeep bracket))

theorem Reaches.bind {α β : Type} {a : α} {b : β} {result : Except ReadFault α}
    {next : α → Except ReadFault β} (first : Reaches a result)
    (rest : Reaches b (next a)) : Reaches b (result >>= next) := by
  cases first with
  | read => exact rest
  | integerTooLong => exact .integerTooLong
  | nestedTooDeep => exact .nestedTooDeep

/-! ## Blanks -/

theorem blanks_skipBlanks (source : List Char) :
    Blanks source (skipBlanks source) := by
  refine ⟨source.takeWhile isBlank, ?_, ?_⟩
  · exact List.all_eq_true.mp List.all_takeWhile
  · exact (List.takeWhile_append_dropWhile).symm

theorem blanks_of_skipBlanks {source rest : List Char}
    (skips : skipBlanks source = rest) : Blanks source rest := by
  rw [← skips]
  exact blanks_skipBlanks source

/-- Blanks are skipped up to what is none. -/
theorem Blanks.skipBlanks_eq {source rest : List Char}
    (blanks : Blanks source rest) (stops : Stops isBlank rest) :
    skipBlanks source = rest := by
  obtain ⟨before, areBlank, rfl⟩ := blanks
  exact stops.dropWhile areBlank

/-! ## Texts -/

theorem startsLowHalf_cons {second : List Char} :
    StartsLowHalf ('\\' :: 'u' :: second) ↔
      ∃ code, hexCode? second = some code ∧ isLowHalf code = true ∧
        second.drop 4 ≠ [] := by
  constructor
  · rintro ⟨_, code, _, same, ⟨coded, rfl⟩, isLow, more⟩
    cases same
    exact ⟨code, coded, isLow, more⟩
  · rintro ⟨code, coded, isLow, more⟩
    exact ⟨second, code, _, rfl, ⟨coded, rfl⟩, isLow, more⟩

theorem spellsPoint_of_readNumericEscape {source rest : List Char}
    {point : Text.CodePoint}
    (reads : readNumericEscape source = .ok (point, rest)) :
    SpellsPoint ('\\' :: 'u' :: source) point rest := by
  unfold readNumericEscape at reads
  generalize follows : source.drop 4 = after at reads
  split at reads
  · cases reads
  · split at reads
    · cases reads
    · rename_i code coded
      dsimp only at reads
      have codes : SpellsCode source code after := ⟨coded, follows.symm⟩
      split at reads
      · rename_i second
        split at reads
        · rename_i isHigh
          rw [Bool.and_eq_true] at isHigh
          split at reads
          · cases reads
          · rename_i low codedLow
            split at reads
            · rename_i isLow
              rw [Except.ok.injEq, Prod.mk.injEq] at reads
              obtain ⟨rfl, rfl⟩ := reads
              exact .pair codes isHigh.1 ⟨codedLow, rfl⟩ isLow
            · rename_i notLow
              cases reads
              refine .numeric codes fun _ startsLow => ?_
              obtain ⟨_, coded, isLow, _⟩ := startsLowHalf_cons.mp startsLow
              cases codedLow.symm.trans coded
              exact notLow isLow
        · rename_i notHigh
          cases reads
          refine .numeric codes fun isHigh startsLow => notHigh ?_
          obtain ⟨_, _, _, more⟩ := startsLowHalf_cons.mp startsLow
          rw [isHigh]
          exact congrArg Bool.not (List.isEmpty_eq_false_iff.mpr more)
      · rename_i noEscape
        cases reads
        refine .numeric codes fun _ startsLow => ?_
        obtain ⟨second, _, _, same, _⟩ := startsLow
        exact noEscape second same

theorem spellsPoint_of_readEscape {source rest : List Char}
    {point : Text.CodePoint} (reads : readEscape source = .ok (point, rest)) :
    SpellsPoint ('\\' :: source) point rest := by
  unfold readEscape at reads
  split at reads
  case h_9 => exact spellsPoint_of_readNumericEscape reads
  case h_10 => cases reads
  all_goals
    cases reads
    exact .short (by decide)

section

variable {opening rest : List Char} {before : List Text.CodePoint}
  {fuel : Nat} {c : Char}

theorem readText_escape (more : rest ≠ []) :
    readText opening (fuel + 1) before ('\\' :: rest) = (do
      let (point, rest) ← readEscape rest
      readText opening fuel (point :: before) rest) := by
  rw [readText]
  exact more

theorem readText_plain (notQuote : c ≠ '"') (notBackslash : c ≠ '\\') :
    readText opening (fuel + 1) before (c :: rest) =
      if c.toNat ≤ 0x1F then
        .error (.malformed .controlCharacter (rest.length + 1))
      else readText opening fuel (.character c :: before) rest := by
  rw [readText]
  · exact notQuote
  · exact fun same _ => notBackslash same
  · exact notBackslash

/-- What is read of a text is spelled there. -/
theorem spellsText_of_readText {source : List Char} {read : String}
    (reads : readText opening fuel before source = .ok (read, rest)) :
    ∃ points, read = Text.ofPoints (before.reverse ++ points) ∧
      SpellsText source points rest := by
  induction fuel generalizing before source with
  | zero => cases reads
  | succ fuel induction =>
      cases source with
      | nil => cases reads
      | cons c others =>
          by_cases isQuote : c = '"'
          · subst isQuote
            cases reads
            exact ⟨[], by simp, .closed⟩
          by_cases isBackslash : c = '\\'
          · subst isBackslash
            by_cases isLast : others = []
            · subst isLast
              cases reads
            · rw [readText_escape isLast] at reads
              obtain ⟨⟨point, between⟩, escape, reads⟩ := bind_eq_ok_iff.mp reads
              obtain ⟨points, rfl, spells⟩ := induction reads
              exact ⟨point :: points, by simp,
                .point (spellsPoint_of_readEscape escape) spells⟩
          · rw [readText_plain isQuote isBackslash] at reads
            split at reads
            · cases reads
            · rename_i more
              obtain ⟨points, rfl, spells⟩ := induction reads
              have plain : SpellsPoint (c :: others) (.character c) others :=
                .plain (Nat.lt_of_not_le more) isQuote isBackslash
              exact ⟨.character c :: points, by simp, .point plain spells⟩

end

section

variable {source between rest : List Char} {points : List Text.CodePoint}
  {c : Char}

theorem readEscape_short {letter : Char} (member : (letter, c) ∈ shortEscapes) :
    readEscape (letter :: rest) = .ok (.character c, rest) := by
  simp only [shortEscapes, List.mem_cons, Prod.mk.injEq, List.not_mem_nil,
    or_false] at member
  rcases member with ⟨rfl, rfl⟩ | ⟨rfl, rfl⟩ | ⟨rfl, rfl⟩ | ⟨rfl, rfl⟩ |
    ⟨rfl, rfl⟩ | ⟨rfl, rfl⟩ | ⟨rfl, rfl⟩ | ⟨rfl, rfl⟩ <;> rfl

theorem SpellsText.ne_nil (spells : SpellsText source points rest) :
    source ≠ [] := by
  rintro rfl
  exact absurd spells.length_lt (Nat.not_lt_zero _)

/-- An escaped code in a text has its digits, and the text goes on after
them. -/
theorem SpellsText.exists_code {second : List Char}
    (spells : SpellsText ('\\' :: 'u' :: second) points rest) :
    ∃ code, hexCode? second = some code ∧ second.drop 4 ≠ [] := by
  cases spells with
  | point first continues =>
      cases first with
      | plain _ _ notBackslash => exact absurd rfl notBackslash
      | short member => simp [shortEscapes] at member
      | numeric codes _ =>
          obtain ⟨coded, rfl⟩ := codes
          exact ⟨_, coded, continues.ne_nil⟩
      | pair codes _ _ _ =>
          obtain ⟨coded, follows⟩ := codes
          exact ⟨_, coded, by rw [← follows]; simp⟩

theorem readEscape_numeric {code : Nat}
    (codes : SpellsCode source code between)
    (alone : isHighHalf code = true → ¬ StartsLowHalf between)
    (continues : SpellsText between points rest) :
    readEscape ('u' :: source) = .ok (.ofCode code, between) := by
  obtain ⟨coded, follows⟩ := codes
  have more : (source.drop 4).isEmpty = false := by
    rw [← follows]
    exact List.isEmpty_eq_false_iff.mpr continues.ne_nil
  change readNumericEscape source = _
  unfold readNumericEscape
  rw [more, coded, ← follows]
  dsimp only
  rw [if_neg Bool.false_ne_true]
  split
  · rename_i second
    obtain ⟨low, codedLow, moreLow⟩ := continues.exists_code
    rw [codedLow]
    dsimp only
    split
    · rename_i isHigh
      rw [Bool.and_eq_true] at isHigh
      split
      · rename_i isLow
        exact absurd (startsLowHalf_cons.mpr ⟨low, codedLow, isLow, moreLow⟩)
          (alone isHigh.1)
      · rfl
    · rfl
  · rfl

theorem readEscape_pair {second : List Char} {high low : Nat}
    (codes : SpellsCode source high ('\\' :: 'u' :: second))
    (isHigh : isHighHalf high = true) (codesLow : SpellsCode second low between)
    (isLow : isLowHalf low = true)
    (continues : SpellsText between points rest) :
    readEscape ('u' :: source) = .ok (joinHalves high low, between) := by
  obtain ⟨coded, follows⟩ := codes
  obtain ⟨codedLow, followsLow⟩ := codesLow
  have more : (second.drop 4).isEmpty = false := by
    rw [← followsLow]
    exact List.isEmpty_eq_false_iff.mpr continues.ne_nil
  change readNumericEscape source = _
  unfold readNumericEscape
  rw [coded, ← follows]
  simp [isHigh, more, codedLow, isLow, followsLow]

/-- A text is read as it is spelled. -/
theorem SpellsText.readText_eq {opening : List Char}
    {before : List Text.CodePoint} {fuel : Nat}
    (spells : SpellsText source points rest)
    (enough : source.length ≤ fuel) :
    readText opening fuel before source =
      .ok (Text.ofPoints (before.reverse ++ points), rest) := by
  induction spells generalizing before fuel with
  | closed =>
      cases fuel with
      | zero => cases enough
      | succ fuel =>
          rw [List.append_nil]
          rfl
  | @point source between rest point points first continues induction =>
      have shorter := first.length_lt
      cases fuel with
      | zero => omega
      | succ fuel =>
          have ended := @induction (point :: before) fuel (by omega)
          rw [List.reverse_cons, List.append_assoc] at ended
          cases first with
          | plain more notQuote notBackslash =>
              rw [readText_plain notQuote notBackslash,
                if_neg (Nat.not_le_of_lt more)]
              exact ended
          | short member =>
              rw [readText_escape (by simp), readEscape_short member]
              exact ended
          | numeric codes alone =>
              rw [readText_escape (by simp),
                readEscape_numeric codes alone continues]
              exact ended
          | pair codes isHigh codesLow isLow =>
              rw [readText_escape (by simp),
                readEscape_pair codes isHigh codesLow isLow continues]
              exact ended

end

/-! ## Numbers as they are read -/

theorem digits_takeWhile {source : List Char}
    (some : (source.takeWhile Char.isDigit).isEmpty = false) :
    Digits (source.takeWhile Char.isDigit) := by
  refine ⟨?_, List.all_eq_true.mp List.all_takeWhile⟩
  intro none
  rw [none] at some
  cases some

theorem isWhole_of_splitWhole {source whole rest : List Char}
    (splits : splitWhole source = some (whole, rest)) :
    source = whole ++ rest ∧ IsWhole whole := by
  unfold splitWhole at splits
  split at splits
  · cases splits
    exact ⟨rfl, .zero⟩
  · rename_i c others notZero
    split at splits
    · rename_i isDigit
      cases splits
      refine ⟨by simp, .digits ?_ ⟨by simp, ?_⟩⟩
      · rintro rfl
        exact notZero rfl
      · intro d member
        rcases List.mem_cons.mp member with rfl | later
        · exact isDigit
        · exact List.all_eq_true.mp List.all_takeWhile d later
    · cases splits
  · cases splits

theorem isFraction_splitFraction (source : List Char) :
    source = (splitFraction source).1 ++ (splitFraction source).2 ∧
      IsFraction (splitFraction source).1 := by
  unfold splitFraction
  split
  · rename_i rest
    cases digits : (rest.takeWhile Char.isDigit).isEmpty with
    | true => exact ⟨by simp [digits], by simp [digits]; exact .absent⟩
    | false =>
        simp only [digits]
        exact ⟨by simp, .present (digits_takeWhile digits)⟩
  · exact ⟨rfl, .absent⟩

/-- Splits off the sign of an exponent. -/
def splitSign : List Char → List Char × List Char
  | '+' :: rest => (['+'], rest)
  | '-' :: rest => (['-'], rest)
  | rest => ([], rest)

theorem splitSign_bare {rest : List Char} (noPlus : ∀ r, rest ≠ '+' :: r)
    (noMinus : ∀ r, rest ≠ '-' :: r) : splitSign rest = ([], rest) := by
  unfold splitSign
  split
  · exact absurd rfl (noPlus _)
  · exact absurd rfl (noMinus _)
  · rfl

theorem splitExponent_cons (letter : Char) (rest : List Char) :
    splitExponent (letter :: rest) =
      if letter = 'e' ∨ letter = 'E' then
        if ((splitSign rest).2.takeWhile Char.isDigit).isEmpty then
          ([], letter :: rest)
        else
          (letter :: (splitSign rest).1 ++
            (splitSign rest).2.takeWhile Char.isDigit,
            (splitSign rest).2.dropWhile Char.isDigit)
      else ([], letter :: rest) := by
  unfold splitExponent
  dsimp only
  split
  · split
    · rfl
    · rfl
    · rename_i noPlus noMinus
      rw [splitSign_bare noPlus noMinus]
  · rfl

theorem splitSign_eq (rest : List Char) :
    rest = (splitSign rest).1 ++ (splitSign rest).2 ∧
      (splitSign rest).1 ∈ [[], ['+'], ['-']] := by
  unfold splitSign
  split <;> simp

theorem isExponent_splitExponent (source : List Char) :
    source = (splitExponent source).1 ++ (splitExponent source).2 ∧
      IsExponent (splitExponent source).1 := by
  cases source with
  | nil => exact ⟨rfl, .absent⟩
  | cons letter rest =>
      rw [splitExponent_cons]
      obtain ⟨parts, isSign⟩ := splitSign_eq rest
      split
      · rename_i isLetter
        split
        · exact ⟨rfl, .absent⟩
        · rename_i some
          rw [Bool.not_eq_true] at some
          refine ⟨?_, .present isLetter isSign (digits_takeWhile some)⟩
          simp [← parts]
      · exact ⟨rfl, .absent⟩

/-- Reads a number after its sign. -/
def readUnsigned (sign unsigned : List Char) :
    Except ReadFault (Value × List Char) :=
  match splitWhole unsigned with
  | none => .error (.malformed .value (sign ++ unsigned).length)
  | some (whole, rest) =>
      let fraction := (splitFraction rest).1
      let exponent := (splitExponent (splitFraction rest).2).1
      let left := (splitExponent (splitFraction rest).2).2
      if fraction.isEmpty && exponent.isEmpty then
        if integerDigitLimit < whole.length then
          .error (.integerTooLong whole.length)
        else
          let magnitude : Int := Binary64.digitsValue whole
          .ok (.int (if sign.isEmpty then magnitude else -magnitude), left)
      else
        .ok (.float (Binary64.ofDecimalText
          (sign ++ whole ++ fraction ++ exponent)), left)

theorem readNumber_minus (unsigned : List Char) :
    readNumber ('-' :: unsigned) = readUnsigned ['-'] unsigned :=
  rfl

theorem readNumber_bare {source : List Char}
    (noMinus : ∀ unsigned, source ≠ '-' :: unsigned) :
    readNumber source = readUnsigned [] source := by
  unfold readNumber
  split
  rename_i sign unsigned parts
  split at parts
  · exact absurd rfl (noMinus _)
  · cases parts
    rfl

theorem spellsNumber_of_readUnsigned {sign unsigned rest : List Char}
    {v : Value} (isSign : sign ∈ [[], ['-']])
    (reads : readUnsigned sign unsigned = .ok (v, rest)) :
    ∃ digits, sign ++ unsigned = digits ++ rest ∧ SpellsNumber digits v := by
  unfold readUnsigned at reads
  split at reads
  · cases reads
  · rename_i whole others splits
    obtain ⟨rfl, isWhole⟩ := isWhole_of_splitWhole splits
    obtain ⟨fractionParts, isFraction⟩ := isFraction_splitFraction others
    obtain ⟨exponentParts, isExponent⟩ :=
      isExponent_splitExponent (splitFraction others).2
    dsimp only at reads
    generalize splitFraction others = fraction at *
    generalize splitExponent fraction.2 = exponent at *
    split at reads
    · rename_i isInteger
      rw [Bool.and_eq_true, List.isEmpty_iff, List.isEmpty_iff] at isInteger
      have parts : others = exponent.2 := by
        rw [fractionParts, exponentParts, isInteger.1, isInteger.2]
        rfl
      split at reads
      · cases reads
      · cases reads
        rw [parts]
        rcases isSign with _ | ⟨_, _ | ⟨_, ⟨⟩⟩⟩
        · exact ⟨whole, rfl, .integer isWhole⟩
        · exact ⟨'-' :: whole, rfl, .negative isWhole⟩
    · rename_i isDouble
      cases reads
      refine ⟨_, ?_, .double isSign isWhole isFraction isExponent ?_⟩
      · rw [fractionParts, exponentParts]
        simp only [List.append_assoc]
      · intro none
        rw [List.append_eq_nil_iff] at none
        exact isDouble (by simp [none.1, none.2])

/-- What is read as a number is spelled as one. -/
theorem spellsNumber_of_readNumber {source rest : List Char} {v : Value}
    (reads : readNumber source = .ok (v, rest)) :
    ∃ digits, source = digits ++ rest ∧ SpellsNumber digits v := by
  by_cases minus : ∃ unsigned, source = '-' :: unsigned
  · obtain ⟨unsigned, rfl⟩ := minus
    rw [readNumber_minus] at reads
    exact spellsNumber_of_readUnsigned (by simp) reads
  · rw [readNumber_bare fun unsigned same => minus ⟨unsigned, same⟩] at reads
    exact spellsNumber_of_readUnsigned (by simp) reads

/-- What is read as a literal or a number is spelled as one. -/
theorem spells_of_readScalar {source rest : List Char} {v : Value}
    (reads : readScalar source = .ok (v, rest)) : Spells source v rest := by
  unfold readScalar at reads
  split at reads
  · rename_i name literal found
    cases reads
    have member := List.mem_of_find?_eq_some found
    have isPrefix := List.find?_some found
    obtain ⟨after, rfl⟩ := List.isPrefixOf_iff_prefix.mp isPrefix
    rw [← String.length_toList, List.drop_left]
    exact .literal member
  · obtain ⟨digits, rfl, spells⟩ := spellsNumber_of_readNumber reads
    exact .number spells

/-! ## Numbers as they are spelled -/

theorem splitWhole_append {whole rest : List Char} (isWhole : IsWhole whole)
    (stops : Stops Char.isDigit rest) :
    splitWhole (whole ++ rest) = some (whole, rest) := by
  cases isWhole with
  | zero => rfl
  | @digits c others notZero digits =>
      have later : ∀ d ∈ others, d.isDigit = true :=
        fun d member => digits.2 d (List.mem_cons_of_mem c member)
      rw [List.cons_append, splitWhole, if_pos (digits.2 c List.mem_cons_self),
        stops.takeWhile later, stops.dropWhile later]
      exact notZero

theorem splitFraction_append {fraction rest : List Char}
    (isFraction : IsFraction fraction) (stops : Stops isPointOrDigit rest) :
    splitFraction (fraction ++ rest) = (fraction, rest) := by
  have stopsDigits : Stops Char.isDigit rest :=
    stops.mono fun c digit => by simp [isPointOrDigit, digit]
  cases isFraction with
  | absent =>
      unfold splitFraction
      split
      · rename_i others same
        cases stops '.' others same
      · rfl
  | @present digits isDigits =>
      have some : digits.isEmpty = false :=
        List.isEmpty_eq_false_iff.mpr isDigits.1
      simp only [List.cons_append, splitFraction,
        stopsDigits.takeWhile isDigits.2, stopsDigits.dropWhile isDigits.2,
        some, Bool.false_eq_true, if_false]

theorem splitSign_append {sign rest : List Char}
    (isSign : sign ∈ [[], ['+'], ['-']])
    (digits : ∀ c others, rest = c :: others → c.isDigit = true) :
    splitSign (sign ++ rest) = (sign, rest) := by
  simp only [List.mem_cons, List.not_mem_nil, or_false] at isSign
  rcases isSign with rfl | rfl | rfl
  · apply splitSign_bare
    · intro others same
      cases digits '+' others same
    · intro others same
      cases digits '-' others same
  · rfl
  · rfl

theorem splitExponent_append {exponent rest : List Char}
    (isExponent : IsExponent exponent) (stops : Stops isNumeric rest) :
    splitExponent (exponent ++ rest) = (exponent, rest) := by
  have stopsDigits : Stops Char.isDigit rest :=
    stops.mono fun c => isNumeric_of_isDigit
  cases isExponent with
  | absent =>
      cases rest with
      | nil => rfl
      | cons c others =>
          have isOther := stops c others rfl
          have notLetter : ¬ (c = 'e' ∨ c = 'E') := by
            rintro (rfl | rfl) <;> cases isOther
          rw [List.nil_append, splitExponent_cons, if_neg notLetter]
  | @present letter sign digits isLetter isSign isDigits =>
      have starts : ∀ c others, digits ++ rest = c :: others →
          c.isDigit = true := by
        intro c others same
        cases digits with
        | nil => exact absurd rfl isDigits.1
        | cons d more =>
            cases same
            exact isDigits.2 c List.mem_cons_self
      have some : digits.isEmpty = false :=
        List.isEmpty_eq_false_iff.mpr isDigits.1
      rw [List.cons_append, List.append_assoc, splitExponent_cons,
        splitSign_append isSign starts]
      simp only [stopsDigits.takeWhile isDigits.2,
        stopsDigits.dropWhile isDigits.2, some, isLetter, Bool.false_eq_true,
        if_true, if_false, List.cons_append]

theorem readUnsigned_append (sign : List Char)
    {whole fraction exponent rest : List Char}
    (isWhole : IsWhole whole) (isFraction : IsFraction fraction)
    (isExponent : IsExponent exponent) (stops : Stops isNumeric rest) :
    readUnsigned sign (whole ++ (fraction ++ (exponent ++ rest))) =
      if fraction.isEmpty && exponent.isEmpty then
        if integerDigitLimit < whole.length then
          .error (.integerTooLong whole.length)
        else
          let magnitude : Int := Binary64.digitsValue whole
          .ok (.int (if sign.isEmpty then magnitude else -magnitude), rest)
      else
        .ok (.float (Binary64.ofDecimalText
          (sign ++ whole ++ fraction ++ exponent)), rest) := by
  have stopsFraction := isExponent.stops stops
  have stopsWhole := isFraction.stops stopsFraction
  simp only [readUnsigned, splitWhole_append isWhole stopsWhole,
    splitFraction_append isFraction stopsFraction,
    splitExponent_append isExponent stops]

theorem reaches_readUnsigned_integer (sign : List Char)
    {whole rest : List Char} (isWhole : IsWhole whole)
    (stops : Stops isNumeric rest) :
    Reaches (.int (if sign.isEmpty then (Binary64.digitsValue whole : Int)
        else -Binary64.digitsValue whole), rest)
      (readUnsigned sign (whole ++ rest)) := by
  have ended := readUnsigned_append sign isWhole .absent .absent stops
  rw [List.nil_append, List.nil_append] at ended
  rw [ended]
  simp only [List.isEmpty_nil, Bool.and_self, if_true]
  by_cases tooLong : integerDigitLimit < whole.length
  · rw [if_pos tooLong]
    exact .integerTooLong
  · rw [if_neg tooLong]
    exact .read

theorem readUnsigned_double (sign : List Char)
    {whole fraction exponent rest : List Char} (isWhole : IsWhole whole)
    (isFraction : IsFraction fraction) (isExponent : IsExponent exponent)
    (some : fraction ++ exponent ≠ []) (stops : Stops isNumeric rest) :
    readUnsigned sign (whole ++ (fraction ++ (exponent ++ rest))) =
      .ok (.float (Binary64.ofDecimalText
        (sign ++ whole ++ fraction ++ exponent)), rest) := by
  rw [readUnsigned_append sign isWhole isFraction isExponent stops, if_neg]
  rw [Bool.and_eq_true, List.isEmpty_iff, List.isEmpty_iff]
  rintro ⟨rfl, rfl⟩
  exact some rfl

theorem readNumber_whole {whole rest : List Char} (isWhole : IsWhole whole) :
    readNumber (whole ++ rest) = readUnsigned [] (whole ++ rest) := by
  obtain ⟨c, others, rfl, digit⟩ := isWhole.exists_digit
  apply readNumber_bare
  intro unsigned same
  cases same
  cases digit

/-- A number is read as it is spelled, unless it is an integer that is too
long. -/
theorem SpellsNumber.reaches {digits rest : List Char} {v : Value}
    (spells : SpellsNumber digits v) (stops : Stops isNumeric rest) :
    Reaches (v, rest) (readNumber (digits ++ rest)) := by
  cases spells with
  | integer isWhole =>
      rw [readNumber_whole isWhole]
      exact reaches_readUnsigned_integer [] isWhole stops
  | negative isWhole =>
      rw [List.cons_append, readNumber_minus]
      exact reaches_readUnsigned_integer ['-'] isWhole stops
  | double isSign isWhole isFraction isExponent some =>
      simp only [List.mem_cons, List.not_mem_nil, or_false] at isSign
      rcases isSign with rfl | rfl
      · simp only [List.nil_append, List.append_assoc]
        rw [readNumber_whole isWhole,
          readUnsigned_double [] isWhole isFraction isExponent some stops]
        simp only [List.nil_append, List.append_assoc]
        exact .read
      · simp only [List.cons_append, List.nil_append, List.append_assoc]
        rw [readNumber_minus,
          readUnsigned_double ['-'] isWhole isFraction isExponent some stops]
        simp only [List.cons_append, List.nil_append, List.append_assoc]
        exact .read

/-- No literal has a digit among its first two characters. -/
theorem isDigit_literals : ∀ literal ∈ literals,
    (literal.1.toList.headD '0').isDigit = false ∧
      (literal.1.toList.tail.headD '0').isDigit = false := by
  decide

theorem SpellsNumber.find?_literals {digits : List Char} {v : Value}
    (spells : SpellsNumber digits v) (rest : List Char) :
    (literals.find? fun literal =>
      literal.1.toList.isPrefixOf (digits ++ rest)) = none := by
  rw [List.find?_eq_none]
  intro literal member isPrefix
  obtain ⟨noFirst, noSecond⟩ := isDigit_literals literal member
  obtain ⟨after, same⟩ := List.isPrefixOf_iff_prefix.mp isPrefix
  obtain ⟨c, others, digit, starts⟩ := spells.exists_digit
  match named : literal.1.toList with
  | [] => rw [named] at noFirst; cases noFirst
  | [_] => rw [named] at noSecond; cases noSecond
  | first :: second :: letters =>
      rw [named] at same noFirst noSecond
      rcases starts with rfl | rfl
      · simp only [List.cons_append, List.cons.injEq] at same
        obtain ⟨rfl, _⟩ := same
        cases digit.symm.trans noFirst
      · simp only [List.cons_append, List.cons.injEq] at same
        obtain ⟨_, rfl, _⟩ := same
        cases digit.symm.trans noSecond

theorem readScalar_literal {name : String} {v : Value}
    (member : (name, v) ∈ literals) (rest : List Char) :
    readScalar (name.toList ++ rest) = .ok (v, rest) := by
  simp only [literals, List.mem_cons, Prod.mk.injEq, List.not_mem_nil,
    or_false] at member
  rcases member with ⟨rfl, rfl⟩ | ⟨rfl, rfl⟩ | ⟨rfl, rfl⟩ | ⟨rfl, rfl⟩ |
    ⟨rfl, rfl⟩ | ⟨rfl, rfl⟩ <;> rfl

theorem reaches_readScalar_number {digits rest : List Char} {v : Value}
    (spells : SpellsNumber digits v) (stops : Stops isNumeric rest) :
    Reaches (v, rest) (readScalar (digits ++ rest)) := by
  rw [readScalar, spells.find?_literals]
  exact spells.reaches stops

end Document

end RoleGuard
