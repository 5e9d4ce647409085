import RoleGuard.Document

/-!
# How documents are spelled

The grammar of documents, apart from any way of reading them.  A relation
between some characters, what they spell and the characters that remain says
what may stand at the front; `SpellsDocument` asks that nothing but blanks
remains.  The grammar knows no limits, and it does not say where a number ends:
that what follows must not belong to it is a fact about whole documents.
-/

namespace RoleGuard

namespace Document

/-- Blanks stand before what remains. -/
def Blanks (source rest : List Char) : Prop :=
  ∃ blanks, (∀ c ∈ blanks, isBlank c = true) ∧ source = blanks ++ rest

/-! ## Texts -/

/-- The characters that a backslash and one letter stand for. -/
def shortEscapes : List (Char × Char) :=
  [('"', '"'), ('\\', '\\'), ('/', '/'), ('b', '\x08'), ('f', '\x0C'),
    ('n', '\n'), ('r', '\r'), ('t', '\t')]

/-- Four digits and what follows them. -/
def SpellsCode (source : List Char) (code : Nat) (rest : List Char) : Prop :=
  hexCode? source = some code ∧ rest = source.drop 4

/-- What follows is the second half of a pair, and not all: a text ends with its
quote. -/
def StartsLowHalf (rest : List Char) : Prop :=
  ∃ second code left, rest = '\\' :: 'u' :: second ∧
    SpellsCode second code left ∧ isLowHalf code = true ∧ left ≠ []

/-- A code point of a text: a character stands for itself, or is escaped by a
letter or by the digits of its code.  Two halves of a pair are one character, and
a half without its partner is a code point of its own. -/
inductive SpellsPoint : List Char → Text.CodePoint → List Char → Prop where
  | plain {c : Char} {rest : List Char} : 0x1F < c.toNat → c ≠ '"' → c ≠ '\\' →
      SpellsPoint (c :: rest) (.character c) rest
  | short {letter c : Char} {rest : List Char} : (letter, c) ∈ shortEscapes →
      SpellsPoint ('\\' :: letter :: rest) (.character c) rest
  | numeric {source rest : List Char} {code : Nat} :
      SpellsCode source code rest →
      (isHighHalf code = true → ¬ StartsLowHalf rest) →
      SpellsPoint ('\\' :: 'u' :: source) (.ofCode code) rest
  | pair {source second rest : List Char} {high low : Nat} :
      SpellsCode source high ('\\' :: 'u' :: second) → isHighHalf high = true →
      SpellsCode second low rest → isLowHalf low = true →
      SpellsPoint ('\\' :: 'u' :: source) (joinHalves high low) rest

/-- The code points of a text and its closing quote. -/
inductive SpellsText : List Char → List Text.CodePoint → List Char → Prop where
  | closed {rest : List Char} : SpellsText ('"' :: rest) [] rest
  | point {source between rest : List Char} {point : Text.CodePoint}
      {points : List Text.CodePoint} :
      SpellsPoint source point between → SpellsText between points rest →
      SpellsText source (point :: points) rest

/-! ## Numbers -/

def Digits (digits : List Char) : Prop :=
  digits ≠ [] ∧ ∀ c ∈ digits, c.isDigit = true

/-- The digits before the point: a lone zero, or digits that do not start with
one. -/
inductive IsWhole : List Char → Prop where
  | zero : IsWhole ['0']
  | digits {c : Char} {others : List Char} : c ≠ '0' → Digits (c :: others) →
      IsWhole (c :: others)

inductive IsFraction : List Char → Prop where
  | absent : IsFraction []
  | present {digits : List Char} : Digits digits → IsFraction ('.' :: digits)

inductive IsExponent : List Char → Prop where
  | absent : IsExponent []
  | present {letter : Char} {sign digits : List Char} :
      letter = 'e' ∨ letter = 'E' → sign ∈ [[], ['+'], ['-']] →
      Digits digits → IsExponent (letter :: (sign ++ digits))

/-- A number: an integer, or a double if it has a fraction or an exponent. -/
inductive SpellsNumber : List Char → Value → Prop where
  | integer {whole : List Char} : IsWhole whole →
      SpellsNumber whole (.int (Binary64.digitsValue whole))
  | negative {whole : List Char} : IsWhole whole →
      SpellsNumber ('-' :: whole) (.int (-Binary64.digitsValue whole))
  | double {sign whole fraction exponent : List Char} :
      sign ∈ [[], ['-']] → IsWhole whole → IsFraction fraction →
      IsExponent exponent → fraction ++ exponent ≠ [] →
      SpellsNumber (sign ++ whole ++ fraction ++ exponent)
        (.float (Binary64.ofDecimalText
          (sign ++ whole ++ fraction ++ exponent)))

/-! ## Documents -/

mutual

/-- A value at the front of some characters. -/
inductive Spells : List Char → Value → List Char → Prop where
  | literal {name : String} {v : Value} {rest : List Char} :
      (name, v) ∈ literals → Spells (name.toList ++ rest) v rest
  | number {digits : List Char} {v : Value} {rest : List Char} :
      SpellsNumber digits v → Spells (digits ++ rest) v rest
  | text {source rest : List Char} {points : List Text.CodePoint} :
      SpellsText source points rest →
      Spells ('"' :: source) (.text (Text.ofPoints points)) rest
  | emptyArray {source rest : List Char} : Blanks source (']' :: rest) →
      Spells ('[' :: source) (.sequence .list []) rest
  | array {source rest : List Char} {items : List Value} :
      SpellsItems source items rest →
      Spells ('[' :: source) (.sequence .list items) rest
  | emptyObject {source rest : List Char} : Blanks source ('}' :: rest) →
      Spells ('{' :: source) (.map []) rest
  | object {source rest : List Char} {members : List (Value × Value)} :
      SpellsMembers source members rest →
      Spells ('{' :: source) (.map (Value.entriesOf members)) rest

/-- The items of an array and its closing bracket. -/
inductive SpellsItems : List Char → List Value → List Char → Prop where
  | last {source start after rest : List Char} {item : Value} :
      Blanks source start → Spells start item after →
      Blanks after (']' :: rest) → SpellsItems source [item] rest
  | more {source start after others rest : List Char} {item : Value}
      {items : List Value} :
      Blanks source start → Spells start item after →
      Blanks after (',' :: others) → SpellsItems others items rest →
      SpellsItems source (item :: items) rest

/-- The name and the value of a member of an object. -/
inductive SpellsMember : List Char → Value × Value → List Char → Prop where
  | intro {source name colon spelled start rest : List Char}
      {points : List Text.CodePoint} {v : Value} :
      Blanks source ('"' :: name) → SpellsText name points colon →
      Blanks colon (':' :: spelled) → Blanks spelled start →
      Spells start v rest →
      SpellsMember source (.text (Text.ofPoints points), v) rest

/-- The members of an object and its closing brace. -/
inductive SpellsMembers : List Char → List (Value × Value) → List Char →
    Prop where
  | last {source after rest : List Char} {member : Value × Value} :
      SpellsMember source member after → Blanks after ('}' :: rest) →
      SpellsMembers source [member] rest
  | more {source after others rest : List Char} {member : Value × Value}
      {members : List (Value × Value)} :
      SpellsMember source member after → Blanks after (',' :: others) →
      SpellsMembers others members rest →
      SpellsMembers source (member :: members) rest

end

/-- A document: a value with nothing but blanks around it. -/
def SpellsDocument (source : List Char) (v : Value) : Prop :=
  ∃ start after, Blanks source start ∧ Spells start v after ∧ Blanks after []

/-! ## Blanks and what stops them -/

theorem Blanks.refl (source : List Char) : Blanks source source :=
  ⟨[], nofun, rfl⟩

theorem Blanks.trans {source between rest : List Char}
    (first : Blanks source between) (second : Blanks between rest) :
    Blanks source rest := by
  obtain ⟨before, areBlank, rfl⟩ := first
  obtain ⟨after, alsoBlank, rfl⟩ := second
  refine ⟨before ++ after, ?_, by simp⟩
  intro c member
  rcases List.mem_append.mp member with earlier | later
  · exact areBlank c earlier
  · exact alsoBlank c later

theorem Blanks.length_le {source rest : List Char}
    (blanks : Blanks source rest) : rest.length ≤ source.length := by
  obtain ⟨before, _, rfl⟩ := blanks
  simp

theorem SpellsItems.of_blanks {source between rest : List Char}
    {items : List Value} (blanks : Blanks source between)
    (spells : SpellsItems between items rest) :
    SpellsItems source items rest := by
  cases spells with
  | last start item after => exact .last (blanks.trans start) item after
  | more start item after others =>
      exact .more (blanks.trans start) item after others

theorem SpellsMember.of_blanks {source between rest : List Char}
    {member : Value × Value} (blanks : Blanks source between)
    (spells : SpellsMember between member rest) :
    SpellsMember source member rest := by
  cases spells with
  | intro start name colon value spelled =>
      exact .intro (blanks.trans start) name colon value spelled

theorem SpellsMembers.of_blanks {source between rest : List Char}
    {members : List (Value × Value)} (blanks : Blanks source between)
    (spells : SpellsMembers between members rest) :
    SpellsMembers source members rest := by
  cases spells with
  | last member after => exact .last (member.of_blanks blanks) after
  | more member after others =>
      exact .more (member.of_blanks blanks) after others

/-- A run of characters of some kind stops here. -/
def Stops (kind : Char → Bool) (rest : List Char) : Prop :=
  ∀ c others, rest = c :: others → kind c = false

theorem Stops.takeWhile {kind : Char → Bool} {run rest : List Char}
    (stops : Stops kind rest) (all : ∀ c ∈ run, kind c = true) :
    (run ++ rest).takeWhile kind = run := by
  rw [List.takeWhile_append_of_pos all]
  cases rest with
  | nil => simp
  | cons c others => simp [stops c others rfl]

theorem Stops.dropWhile {kind : Char → Bool} {run rest : List Char}
    (stops : Stops kind rest) (all : ∀ c ∈ run, kind c = true) :
    (run ++ rest).dropWhile kind = rest := by
  rw [List.dropWhile_append_of_pos all]
  cases rest with
  | nil => rfl
  | cons c others => simp [stops c others rfl]

theorem Stops.cons {kind : Char → Bool} {c : Char} {others : List Char}
    (isOther : kind c = false) : Stops kind (c :: others) := by
  intro d after same
  cases same
  exact isOther

/-- What may belong to a number. -/
def isNumeric (c : Char) : Bool :=
  c.isDigit || c == '.' || c == 'e' || c == 'E'

theorem stops_isNumeric_of_isBlank {c : Char} (blank : isBlank c = true) :
    isNumeric c = false := by
  simp only [isBlank, Bool.or_eq_true, beq_iff_eq] at blank
  rcases blank with ((rfl | rfl) | rfl) | rfl <;> rfl

/-- Blanks before what stops a number stop it as well. -/
theorem Blanks.stops {source rest : List Char} (blanks : Blanks source rest)
    (stops : Stops isNumeric rest) : Stops isNumeric source := by
  obtain ⟨before, areBlank, rfl⟩ := blanks
  cases before with
  | nil => exact stops
  | cons c others =>
      exact .cons (stops_isNumeric_of_isBlank (areBlank c List.mem_cons_self))

theorem Stops.mono {kind narrower : Char → Bool} {rest : List Char}
    (stops : Stops kind rest)
    (within : ∀ c, narrower c = true → kind c = true) :
    Stops narrower rest := by
  intro c others same
  have isOther := stops c others same
  rw [← Bool.not_eq_true] at isOther ⊢
  exact fun isNarrow => isOther (within c isNarrow)

theorem isNumeric_of_isDigit {c : Char} (digit : c.isDigit = true) :
    isNumeric c = true := by
  simp [isNumeric, digit]

/-! ## The fronts of numbers and of values -/

/-- What a fraction consists of. -/
def isPointOrDigit (c : Char) : Bool :=
  c.isDigit || c == '.'

/-- An exponent, or what follows a number, stops its fraction. -/
theorem IsExponent.stops {exponent rest : List Char}
    (isExponent : IsExponent exponent) (stops : Stops isNumeric rest) :
    Stops isPointOrDigit (exponent ++ rest) := by
  cases isExponent with
  | absent =>
      exact stops.mono fun c => by
        simp only [isPointOrDigit, isNumeric, Bool.or_eq_true]
        rintro (digit | point)
        · exact .inl (.inl (.inl digit))
        · exact .inl (.inl (.inr point))
  | present isLetter _ _ =>
      rcases isLetter with rfl | rfl <;> exact .cons rfl

theorem IsFraction.stops {fraction rest : List Char}
    (isFraction : IsFraction fraction) (stops : Stops isPointOrDigit rest) :
    Stops Char.isDigit (fraction ++ rest) := by
  cases isFraction with
  | absent => exact stops.mono fun c digit => by simp [isPointOrDigit, digit]
  | present _ => exact .cons rfl

theorem IsWhole.exists_digit {whole : List Char} (isWhole : IsWhole whole) :
    ∃ c others, whole = c :: others ∧ c.isDigit = true := by
  cases isWhole with
  | zero => exact ⟨'0', [], rfl, rfl⟩
  | digits _ digits => exact ⟨_, _, rfl, digits.2 _ List.mem_cons_self⟩

/-- A number starts with a digit, after a sign or not. -/
theorem SpellsNumber.exists_digit {digits : List Char} {v : Value}
    (spells : SpellsNumber digits v) :
    ∃ c others, c.isDigit = true ∧
      (digits = c :: others ∨ digits = '-' :: c :: others) := by
  cases spells with
  | integer isWhole =>
      obtain ⟨c, others, rfl, digit⟩ := isWhole.exists_digit
      exact ⟨c, others, digit, .inl rfl⟩
  | negative isWhole =>
      obtain ⟨c, others, rfl, digit⟩ := isWhole.exists_digit
      exact ⟨c, others, digit, .inr rfl⟩
  | double isSign isWhole _ _ _ =>
      obtain ⟨c, others, rfl, digit⟩ := isWhole.exists_digit
      simp only [List.mem_cons, List.not_mem_nil, or_false] at isSign
      rcases isSign with rfl | rfl
      · exact ⟨c, _, digit, .inl rfl⟩
      · exact ⟨c, _, digit, .inr rfl⟩

/-- What a value may start with: no blank, no closing bracket and no byte order
mark. -/
def isHead (c : Char) : Bool :=
  !isBlank c && c != ']' && c != '\uFEFF'

/-- What a value may start with that is neither a text nor in brackets. -/
def isScalarHead (c : Char) : Bool :=
  isHead c && c != '"' && c != '[' && c != '{'

theorem isScalarHead_of_isDigit {c : Char} (digit : c.isDigit = true) :
    isScalarHead c = true := by
  have apart : ∀ d : Char, d.isDigit = false → c ≠ d := by
    rintro d notDigit rfl
    cases digit.symm.trans notDigit
  simp [isScalarHead, isHead, isBlank, apart]

theorem isScalarHead_literals : ∀ literal ∈ literals,
    isScalarHead (literal.1.toList.headD '[') = true := by
  decide

theorem exists_isScalarHead_literal {name : String} {v : Value}
    (member : (name, v) ∈ literals) (rest : List Char) :
    ∃ c others, name.toList ++ rest = c :: others ∧ isScalarHead c = true := by
  have head := isScalarHead_literals _ member
  dsimp only at head
  cases named : name.toList with
  | nil => rw [named] at head; cases head
  | cons c letters =>
      rw [named] at head
      exact ⟨c, _, rfl, head⟩

theorem SpellsNumber.exists_isScalarHead {digits : List Char} {v : Value}
    (spells : SpellsNumber digits v) (rest : List Char) :
    ∃ c others, digits ++ rest = c :: others ∧ isScalarHead c = true := by
  obtain ⟨c, others, digit, rfl | rfl⟩ := spells.exists_digit
  · exact ⟨c, _, rfl, isScalarHead_of_isDigit digit⟩
  · exact ⟨'-', _, rfl, by decide⟩

theorem Spells.exists_isHead {source rest : List Char} {v : Value}
    (spells : Spells source v rest) :
    ∃ c others, source = c :: others ∧ isHead c = true := by
  have ofScalar : ∀ c, isScalarHead c = true → isHead c = true := by
    intro c head
    simp only [isScalarHead, Bool.and_eq_true] at head
    exact head.1.1.1
  cases spells with
  | literal member =>
      obtain ⟨c, others, same, head⟩ := exists_isScalarHead_literal member rest
      exact ⟨c, others, same, ofScalar c head⟩
  | number digits =>
      obtain ⟨c, others, same, head⟩ := digits.exists_isScalarHead rest
      exact ⟨c, others, same, ofScalar c head⟩
  | text _ => exact ⟨_, _, rfl, by decide⟩
  | emptyArray _ | array _ | emptyObject _ | object _ =>
      exact ⟨_, _, rfl, by decide⟩

/-! ## What remains -/

theorem four_le_length_of_hexCode? {source : List Char} {code : Nat}
    (coded : hexCode? source = some code) : 4 ≤ source.length := by
  unfold hexCode? at coded
  split at coded
  · simp
  · cases coded

theorem SpellsCode.length_lt {source rest : List Char} {code : Nat}
    (codes : SpellsCode source code rest) : rest.length < source.length := by
  obtain ⟨coded, rfl⟩ := codes
  have fourDigits := four_le_length_of_hexCode? coded
  rw [List.length_drop]
  omega

theorem SpellsPoint.length_lt {source rest : List Char}
    {point : Text.CodePoint} (spells : SpellsPoint source point rest) : rest.length < source.length := by
  cases spells with
  | plain _ _ _ => simp
  | short _ =>
      simp only [List.length_cons]
      omega
  | numeric codes _ =>
      have shorter := codes.length_lt
      simp only [List.length_cons]
      omega
  | pair codes _ codesLow _ =>
      have shorterHigh := codes.length_lt
      have shorterLow := codesLow.length_lt
      simp only [List.length_cons] at *
      omega

theorem SpellsText.length_lt {source rest : List Char}
    {points : List Text.CodePoint} (spells : SpellsText source points rest) :
    rest.length < source.length := by
  induction spells with
  | closed => simp
  | point first _ induction => exact Nat.lt_trans induction first.length_lt

theorem IsWhole.ne_nil {whole : List Char} (isWhole : IsWhole whole) :
    whole ≠ [] := by
  cases isWhole <;> simp

theorem SpellsNumber.ne_nil {digits : List Char} {v : Value}
    (spells : SpellsNumber digits v) : digits ≠ [] := by
  cases spells with
  | integer isWhole => exact isWhole.ne_nil
  | negative _ => simp
  | double _ isWhole _ _ _ => simp [isWhole.ne_nil]

theorem ne_nil_of_mem_literals {name : String} {v : Value}
    (member : (name, v) ∈ literals) : name.toList ≠ [] := by
  simp only [literals, List.mem_cons, Prod.mk.injEq, List.not_mem_nil,
    or_false] at member
  rcases member with ⟨rfl, _⟩ | ⟨rfl, _⟩ | ⟨rfl, _⟩ | ⟨rfl, _⟩ | ⟨rfl, _⟩ |
    ⟨rfl, _⟩ <;> decide

theorem length_lt_of_ne_nil {front : List Char} (some : front ≠ [])
    (rest : List Char) : rest.length < (front ++ rest).length := by
  have positive := List.length_pos_iff.mpr some
  rw [List.length_append]
  omega

mutual

theorem Spells.length_lt {source rest : List Char} {v : Value}
    (spells : Spells source v rest) : rest.length < source.length := by
  match spells with
  | .literal member =>
      exact length_lt_of_ne_nil (ne_nil_of_mem_literals member) rest
  | .number digits => exact length_lt_of_ne_nil digits.ne_nil rest
  | .text characters =>
      have ofCharacters := characters.length_lt
      simp only [List.length_cons]
      omega
  | .emptyArray blanks | .emptyObject blanks =>
      have ofBlanks := blanks.length_le
      simp only [List.length_cons] at *
      omega
  | .array items =>
      have ofItems := items.length_lt
      simp only [List.length_cons]
      omega
  | .object members =>
      have ofMembers := members.length_lt
      simp only [List.length_cons]
      omega

theorem SpellsItems.length_lt {source rest : List Char} {items : List Value}
    (spells : SpellsItems source items rest) : rest.length < source.length := by
  match spells with
  | .last before item after =>
      have ofBefore := before.length_le
      have ofItem := item.length_lt
      have ofAfter := after.length_le
      simp only [List.length_cons] at *
      omega
  | .more before item after others =>
      have ofBefore := before.length_le
      have ofItem := item.length_lt
      have ofAfter := after.length_le
      have ofOthers := others.length_lt
      simp only [List.length_cons] at *
      omega

theorem SpellsMember.length_lt {source rest : List Char}
    {member : Value × Value} (spells : SpellsMember source member rest) :
    rest.length < source.length := by
  match spells with
  | .intro before name colon between v =>
      have ofBefore := before.length_le
      have ofName := name.length_lt
      have ofColon := colon.length_le
      have ofBetween := between.length_le
      have ofValue := v.length_lt
      simp only [List.length_cons] at *
      omega

theorem SpellsMembers.length_lt {source rest : List Char}
    {members : List (Value × Value)}
    (spells : SpellsMembers source members rest) :
    rest.length < source.length := by
  match spells with
  | .last member after =>
      have ofMember := member.length_lt
      have ofAfter := after.length_le
      simp only [List.length_cons] at *
      omega
  | .more member after others =>
      have ofMember := member.length_lt
      have ofAfter := after.length_le
      have ofOthers := others.length_lt
      simp only [List.length_cons] at *
      omega

end

end Document

end RoleGuard
