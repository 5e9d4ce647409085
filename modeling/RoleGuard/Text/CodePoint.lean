/-!
# Text as a row of code points

A text is a row of code points: characters, and halves of the pairs that encode
the characters beyond the first 65536.  A half may stand in a text without its
partner, and is no character then.

A string holds characters only.  A half is written in it as two of them: a mark,
which is the last character there is, and one with the place of the half among
the halves.  The mark itself is written twice, and every other character as it
is.
-/

namespace RoleGuard

namespace Text

inductive CodePoint where
  | character (c : Char)
  | half (place : Fin 0x800)
  deriving DecidableEq, Repr

/-- What a character begins with that is not written as it is. -/
def mark : Char := Char.ofNat 0x10FFFF

/-- The character after the mark that stands for the first half. -/
def firstPlace : Nat := 0x100000

namespace CodePoint

def firstHalf : Nat := 0xD800

/-- The code point with a number. -/
def ofCode (code : Nat) : CodePoint :=
  if isHalf : firstHalf ≤ code ∧ code - firstHalf < 0x800 then
    .half ⟨code - firstHalf, isHalf.2⟩
  else .character (Char.ofNat code)

def code : CodePoint → Nat
  | .character c => c.toNat
  | .half place => firstHalf + place.val

def isHalf : CodePoint → Bool
  | .character _ => false
  | .half _ => true

/-- A code point as it is written in a string. -/
def write : CodePoint → List Char
  | .character c => if c = mark then [mark, mark] else [c]
  | .half place => [mark, Char.ofNat (firstPlace + place.val)]

/-- What the mark and the given character stand for together. -/
def marked (c : Char) : CodePoint :=
  if isPlace : firstPlace ≤ c.toNat ∧ c.toNat - firstPlace < 0x800 then
    .half ⟨c.toNat - firstPlace, isPlace.2⟩
  else .character c

theorem marked_place (place : Fin 0x800) :
    marked (Char.ofNat (firstPlace + place.val)) = .half place := by
  have isValid : (firstPlace + place.val).isValidChar :=
    .inr ⟨by unfold firstPlace; omega, by unfold firstPlace; omega⟩
  have isCode : (Char.ofNat (firstPlace + place.val)).toNat =
      firstPlace + place.val := by
    rw [Char.ofNat, dif_pos isValid]
    rfl
  simp [marked, isCode]

theorem marked_mark : marked mark = .character mark := by
  decide

end CodePoint

/-- The code points that characters write. -/
def pointsOf : List Char → List CodePoint
  | [] => []
  | [c] => [.character c]
  | c :: next :: rest =>
      if c = mark then .marked next :: pointsOf rest
      else .character c :: pointsOf (next :: rest)

/-- The code points of a text. -/
def points (s : String) : List CodePoint :=
  pointsOf s.toList

/-- The text that code points make up. -/
def ofPoints (points : List CodePoint) : String :=
  String.ofList (points.flatMap CodePoint.write)

theorem pointsOf_cons {c : Char} (notMark : c ≠ mark) (rest : List Char) :
    pointsOf (c :: rest) = .character c :: pointsOf rest := by
  cases rest with
  | nil => rfl
  | cons next rest => exact if_neg notMark

theorem pointsOf_write (point : CodePoint) (rest : List Char) :
    pointsOf (point.write ++ rest) = point :: pointsOf rest := by
  cases point with
  | character c =>
      by_cases isMark : c = mark
      · subst isMark
        change CodePoint.marked mark :: pointsOf rest = _
        rw [CodePoint.marked_mark]
      · rw [CodePoint.write, if_neg isMark]
        exact pointsOf_cons isMark rest
  | half place =>
      change CodePoint.marked (Char.ofNat _) :: pointsOf rest = _
      rw [CodePoint.marked_place]

/-- What is written can be read back. -/
theorem points_ofPoints (written : List CodePoint) :
    points (ofPoints written) = written := by
  rw [points, ofPoints, String.toList_ofList]
  induction written with
  | nil => rfl
  | cons point written ih =>
      rw [List.flatMap_cons, pointsOf_write, ih]

/-- Different rows of code points are different texts. -/
theorem ofPoints_injective {written other : List CodePoint}
    (same : ofPoints written = ofPoints other) : written = other := by
  rw [← points_ofPoints written, same, points_ofPoints]

/-- Characters other than the mark are written as they are. -/
theorem ofPoints_characters {characters : List Char}
    (noMark : mark ∉ characters) :
    ofPoints (characters.map .character) = String.ofList characters := by
  have written : (characters.map CodePoint.character).flatMap
      CodePoint.write = characters := by
    induction characters with
    | nil => rfl
    | cons c characters ih =>
        have notMark : c ≠ mark :=
          fun isMark => noMark (isMark ▸ List.mem_cons_self)
        have noneLater : mark ∉ characters :=
          fun later => noMark (List.mem_cons_of_mem c later)
        rw [List.map_cons, List.flatMap_cons, ih noneLater, CodePoint.write,
          if_neg notMark]
        rfl
  rw [ofPoints, written]

/-- Code points that cannot be encoded: the first of them, its place in the
text and how many halves follow each other there. -/
structure EncodeFault where
  code : Nat
  offset : Nat
  length : Nat
  deriving DecidableEq, Repr

/-- Where a text cannot be encoded: at its first half, unless that is allowed to
stand alone. -/
def encodeFault? (isAllowed : CodePoint → Bool) (text : List CodePoint) :
    Option EncodeFault :=
  match text.dropWhile fun point => !point.isHalf || isAllowed point with
  | [] => none
  | first :: rest => some {
      code := first.code
      offset := text.length - (rest.length + 1)
      length := (rest.takeWhile CodePoint.isHalf).length + 1 }

/-- Whether a half stands for a byte that is no character in the name of a
file. -/
def CodePoint.isByte : CodePoint → Bool
  | .character _ => false
  | .half place => 0x480 ≤ place.val && place.val < 0x500

end Text

end RoleGuard
