import RoleGuard.Text.Utf8
import Mathlib.Tactic.SplitIfs

/-!
# What strict decoding accepts

Decoding accepts a sequence of bytes exactly if it is the encoding of some
characters, and then gives these.  One direction follows what is taken after a
first byte: the bounds on the second byte exclude the encodings that are longer
than need be, the halves of pairs and what is too large to be a character.  The
other follows the encoding of a character by the number of its bytes.
-/

namespace RoleGuard

namespace Text

/-- The bytes that encode characters. -/
def encoded (characters : List Char) : List UInt8 :=
  characters.flatMap String.utf8EncodeChar

theorem encoded_cons (c : Char) (characters : List Char) :
    encoded (c :: characters) =
      String.utf8EncodeChar c ++ encoded characters :=
  List.flatMap_cons

/-! ## Bytes and codes as numbers -/

theorem between_iff (least byte greatest : UInt8) :
    (decide (least ≤ byte) && decide (byte ≤ greatest)) = true ↔
      least.toNat ≤ byte.toNat ∧ byte.toNat ≤ greatest.toNat := by
  simp [UInt8.le_iff_toNat_le]

theorem lt_iff_toNat (first : UInt8) : first < 0x80 ↔ first.toNat < 0x80 :=
  UInt8.lt_iff_toNat_lt

theorem ofNat_eq_of_toNat {n : Nat} {byte : UInt8} (same : n = byte.toNat) :
    UInt8.ofNat n = byte := by
  rw [same]
  exact UInt8.ofNat_toNat

theorem toNat_ofNat_of_lt {n : Nat} (small : n < 256) :
    (UInt8.ofNat n).toNat = n := by
  simpa using small

theorem toNat_ofNat_of_isValidChar {code : Nat} (valid : code.isValidChar) :
    (Char.ofNat code).toNat = code := by
  have same : Char.ofNat code = Char.ofNatAux code valid := dif_pos valid
  rw [same]
  rfl

/-- How a character is encoded, by its code. -/
theorem encode_eq (c : Char) :
    String.utf8EncodeChar c =
      if c.toNat ≤ 0x7F then [UInt8.ofNat c.toNat]
      else if c.toNat ≤ 0x7FF then
        [UInt8.ofNat (c.toNat / 64 % 32 + 0xC0),
          UInt8.ofNat (c.toNat % 64 + 0x80)]
      else if c.toNat ≤ 0xFFFF then
        [UInt8.ofNat (c.toNat / 4096 % 16 + 0xE0),
          UInt8.ofNat (c.toNat / 64 % 64 + 0x80),
          UInt8.ofNat (c.toNat % 64 + 0x80)]
      else
        [UInt8.ofNat (c.toNat / 262144 % 8 + 0xF0),
          UInt8.ofNat (c.toNat / 4096 % 64 + 0x80),
          UInt8.ofNat (c.toNat / 64 % 64 + 0x80),
          UInt8.ofNat (c.toNat % 64 + 0x80)] :=
  rfl

/-- What must follow a first byte, by its number. -/
theorem utf8Tail?_eq (first : UInt8) :
    utf8Tail? first =
      if 0xC2 ≤ first.toNat ∧ first.toNat ≤ 0xDF then some ⟨1, 0x80, 0xBF⟩
      else if 0xE0 ≤ first.toNat ∧ first.toNat ≤ 0xEF then
        some ⟨2, if first.toNat = 0xE0 then 0xA0 else 0x80,
          if first.toNat = 0xED then 0x9F else 0xBF⟩
      else if 0xF0 ≤ first.toNat ∧ first.toNat ≤ 0xF4 then
        some ⟨3, if first.toNat = 0xF0 then 0x90 else 0x80,
          if first.toNat = 0xF4 then 0x8F else 0xBF⟩
      else none := by
  simp only [utf8Tail?, Bool.and_eq_true, decide_eq_true_eq, beq_iff_eq,
    UInt8.le_iff_toNat_le, ← UInt8.toNat_inj, UInt8.reduceToNat]
  split_ifs <;> first | rfl | omega

/-! ## The bytes taken after a first -/

section Taking

variable {more taken bits code : Nat} {least greatest byte : UInt8}
  {rest left : List UInt8}

/-- A byte between the bounds is taken. -/
theorem takeTail_cons
    (between : least.toNat ≤ byte.toNat ∧ byte.toNat ≤ greatest.toNat) :
    takeTail (more + 1) least greatest taken bits (byte :: rest) =
      takeTail more 0x80 0xBF (taken + 1) (64 * bits + byte.toNat % 64)
        rest := by
  rw [takeTail, if_pos ((between_iff _ _ _).mpr between)]

/-- Where more bytes are taken, the next is there and between the bounds. -/
theorem exists_cons_of_takeTail
    (takes : takeTail (more + 1) least greatest taken bits rest =
      .ok (code, left)) :
    ∃ byte others, rest = byte :: others ∧
      (least.toNat ≤ byte.toNat ∧ byte.toNat ≤ greatest.toNat) ∧
      takeTail more 0x80 0xBF (taken + 1) (64 * bits + byte.toNat % 64)
        others = .ok (code, left) := by
  cases rest with
  | nil => cases takes
  | cons byte others =>
      rw [takeTail] at takes
      split at takes
      · rename_i between
        exact ⟨byte, others, rfl, (between_iff _ _ _).mp between, takes⟩
      · cases takes

end Taking

/-! ## The character that bytes encode -/

theorem encode_one {first : UInt8} (small : first.toNat < 0x80) :
    String.utf8EncodeChar (Char.ofNat first.toNat) = [first] := by
  have valid : first.toNat.isValidChar := by
    unfold Nat.isValidChar
    omega
  rw [encode_eq, toNat_ofNat_of_isValidChar valid, if_pos (by omega),
    UInt8.ofNat_toNat]

theorem encode_two {first next : UInt8}
    (starts : 0xC2 ≤ first.toNat ∧ first.toNat ≤ 0xDF)
    (continues : 0x80 ≤ next.toNat ∧ next.toNat ≤ 0xBF) :
    String.utf8EncodeChar
        (Char.ofNat (64 * (first.toNat % 32) + next.toNat % 64)) =
      [first, next] := by
  have valid : (64 * (first.toNat % 32) + next.toNat % 64).isValidChar := by
    unfold Nat.isValidChar
    omega
  rw [encode_eq, toNat_ofNat_of_isValidChar valid, if_neg (by omega),
    if_pos (by omega)]
  congr 1
  · exact ofNat_eq_of_toNat (by omega)
  · congr 1
    exact ofNat_eq_of_toNat (by omega)

/-- The bounds on the second byte keep the code above what two bytes encode and
away from the halves of pairs. -/
theorem encode_three {first next last : UInt8}
    (starts : 0xE0 ≤ first.toNat ∧ first.toNat ≤ 0xEF)
    (continues : 0x80 ≤ next.toNat ∧ next.toNat ≤ 0xBF)
    (isLong : first.toNat = 0xE0 → 0xA0 ≤ next.toNat)
    (isNoHalf : first.toNat = 0xED → next.toNat ≤ 0x9F)
    (ends : 0x80 ≤ last.toNat ∧ last.toNat ≤ 0xBF) :
    String.utf8EncodeChar
        (Char.ofNat (64 * (64 * (first.toNat % 16) + next.toNat % 64) +
          last.toNat % 64)) =
      [first, next, last] := by
  have valid : (64 * (64 * (first.toNat % 16) + next.toNat % 64) +
      last.toNat % 64).isValidChar := by
    unfold Nat.isValidChar
    omega
  rw [encode_eq, toNat_ofNat_of_isValidChar valid, if_neg (by omega),
    if_neg (by omega), if_pos (by omega)]
  congr 1
  · exact ofNat_eq_of_toNat (by omega)
  · congr 1
    · exact ofNat_eq_of_toNat (by omega)
    · congr 1
      exact ofNat_eq_of_toNat (by omega)

/-- The bounds on the second byte keep the code above what three bytes encode
and below the first that is too large. -/
theorem encode_four {first second third last : UInt8}
    (starts : 0xF0 ≤ first.toNat ∧ first.toNat ≤ 0xF4)
    (continues : 0x80 ≤ second.toNat ∧ second.toNat ≤ 0xBF)
    (isLong : first.toNat = 0xF0 → 0x90 ≤ second.toNat)
    (isSmall : first.toNat = 0xF4 → second.toNat ≤ 0x8F)
    (goesOn : 0x80 ≤ third.toNat ∧ third.toNat ≤ 0xBF)
    (ends : 0x80 ≤ last.toNat ∧ last.toNat ≤ 0xBF) :
    String.utf8EncodeChar
        (Char.ofNat (64 * (64 * (64 * (first.toNat % 8) + second.toNat % 64) +
          third.toNat % 64) + last.toNat % 64)) =
      [first, second, third, last] := by
  have valid : (64 * (64 * (64 * (first.toNat % 8) + second.toNat % 64) +
      third.toNat % 64) + last.toNat % 64).isValidChar := by
    unfold Nat.isValidChar
    omega
  rw [encode_eq, toNat_ofNat_of_isValidChar valid, if_neg (by omega),
    if_neg (by omega), if_neg (by omega)]
  congr 1
  · exact ofNat_eq_of_toNat (by omega)
  · congr 1
    · exact ofNat_eq_of_toNat (by omega)
    · congr 1
      · exact ofNat_eq_of_toNat (by omega)
      · congr 1
        exact ofNat_eq_of_toNat (by omega)

/-- The code that is taken after a first byte is that of the character which the
bytes encode. -/
theorem encode_of_takeTail {first : UInt8} {tail : Utf8Tail}
    {rest left : List UInt8} {code : Nat}
    (starts : utf8Tail? first = some tail)
    (takes : takeTail tail.count tail.least tail.greatest 1
      (leadingBits first tail.count) rest = .ok (code, left)) :
    ∃ following, rest = following ++ left ∧
      String.utf8EncodeChar (Char.ofNat code) = first :: following := by
  rw [utf8Tail?_eq] at starts
  split at starts
  · rename_i isTwo
    cases starts
    obtain ⟨next, others, rfl, continues, ended⟩ :=
      exists_cons_of_takeTail takes
    cases ended
    exact ⟨[next], rfl, encode_two isTwo continues⟩
  · split at starts
    · rename_i isThree
      cases starts
      obtain ⟨next, others, rfl, continues, takes⟩ :=
        exists_cons_of_takeTail takes
      obtain ⟨last, others, rfl, ends, ended⟩ := exists_cons_of_takeTail takes
      cases ended
      refine ⟨[next, last], rfl, encode_three isThree ?_ ?_ ?_ ends⟩
      all_goals split_ifs at continues <;> simp at continues ⊢ <;> omega
    · split at starts
      · rename_i isFour
        cases starts
        obtain ⟨second, others, rfl, continues, takes⟩ :=
          exists_cons_of_takeTail takes
        obtain ⟨third, others, rfl, goesOn, takes⟩ :=
          exists_cons_of_takeTail takes
        obtain ⟨last, others, rfl, ends, ended⟩ :=
          exists_cons_of_takeTail takes
        cases ended
        refine ⟨[second, third, last], rfl,
          encode_four isFour ?_ ?_ ?_ goesOn ends⟩
        all_goals split_ifs at continues <;> simp at continues ⊢ <;> omega
      · cases starts

/-! ## The bytes that a character is encoded by -/

/-- The bytes begin with one that says what follows it, and a character is taken
from them. -/
def TakenFrom (c : Char) (rest : List UInt8) : List UInt8 → Prop
  | [] => False
  | first :: following =>
      0x80 ≤ first.toNat ∧ ∃ tail, utf8Tail? first = some tail ∧
        takeTail tail.count tail.least tail.greatest 1
          (leadingBits first tail.count) (following ++ rest) =
            .ok (c.toNat, rest)

section Encoding

variable {c : Char}

theorem takenFrom_two (more : 0x7F < c.toNat) (less : c.toNat ≤ 0x7FF)
    (rest : List UInt8) :
    TakenFrom c rest [UInt8.ofNat (c.toNat / 64 % 32 + 0xC0),
      UInt8.ofNat (c.toNat % 64 + 0x80)] := by
  have first := toNat_ofNat_of_lt (n := c.toNat / 64 % 32 + 0xC0) (by omega)
  have next := toNat_ofNat_of_lt (n := c.toNat % 64 + 0x80) (by omega)
  refine ⟨by omega, _, (utf8Tail?_eq _).trans (if_pos (by omega)), ?_⟩
  change takeTail 1 _ _ 1 ((UInt8.ofNat _).toNat % 32) (_ :: rest) = _
  rw [takeTail_cons (by simp only [UInt8.reduceToNat]; omega), first, next,
    takeTail]
  congr 2
  omega

theorem takenFrom_three (more : 0x7FF < c.toNat) (less : c.toNat ≤ 0xFFFF)
    (rest : List UInt8) :
    TakenFrom c rest [UInt8.ofNat (c.toNat / 4096 % 16 + 0xE0),
      UInt8.ofNat (c.toNat / 64 % 64 + 0x80),
      UInt8.ofNat (c.toNat % 64 + 0x80)] := by
  have valid : c.toNat.isValidChar := c.valid
  unfold Nat.isValidChar at valid
  have first := toNat_ofNat_of_lt (n := c.toNat / 4096 % 16 + 0xE0) (by omega)
  have next := toNat_ofNat_of_lt (n := c.toNat / 64 % 64 + 0x80) (by omega)
  have last := toNat_ofNat_of_lt (n := c.toNat % 64 + 0x80) (by omega)
  refine ⟨by omega, _, (utf8Tail?_eq _).trans
    ((if_neg (by omega)).trans (if_pos (by omega))), ?_⟩
  change takeTail 2 _ _ 1 ((UInt8.ofNat _).toNat % 16) (_ :: _ :: rest) = _
  rw [takeTail_cons (by split_ifs <;> simp only [UInt8.reduceToNat] <;> omega),
    takeTail_cons (by simp only [UInt8.reduceToNat]; omega), first, next, last,
    takeTail]
  congr 2
  omega

theorem takenFrom_four (more : 0xFFFF < c.toNat) (rest : List UInt8) :
    TakenFrom c rest [UInt8.ofNat (c.toNat / 262144 % 8 + 0xF0),
      UInt8.ofNat (c.toNat / 4096 % 64 + 0x80),
      UInt8.ofNat (c.toNat / 64 % 64 + 0x80),
      UInt8.ofNat (c.toNat % 64 + 0x80)] := by
  have valid : c.toNat.isValidChar := c.valid
  unfold Nat.isValidChar at valid
  have first := toNat_ofNat_of_lt (n := c.toNat / 262144 % 8 + 0xF0) (by omega)
  have second := toNat_ofNat_of_lt (n := c.toNat / 4096 % 64 + 0x80) (by omega)
  have third := toNat_ofNat_of_lt (n := c.toNat / 64 % 64 + 0x80) (by omega)
  have last := toNat_ofNat_of_lt (n := c.toNat % 64 + 0x80) (by omega)
  refine ⟨by omega, _, (utf8Tail?_eq _).trans ((if_neg (by omega)).trans
    ((if_neg (by omega)).trans (if_pos (by omega)))), ?_⟩
  change takeTail 3 _ _ 1 ((UInt8.ofNat _).toNat % 8) (_ :: _ :: _ :: rest) = _
  rw [takeTail_cons (by split_ifs <;> simp only [UInt8.reduceToNat] <;> omega),
    takeTail_cons (by simp only [UInt8.reduceToNat]; omega),
    takeTail_cons (by simp only [UInt8.reduceToNat]; omega), first, second,
    third, last, takeTail]
  congr 2
  omega

end Encoding

/-- A character is encoded by one byte, or by bytes that it is taken from. -/
theorem takenFrom_encode (c : Char) (rest : List UInt8) :
    (c.toNat < 0x80 ∧ String.utf8EncodeChar c = [UInt8.ofNat c.toNat]) ∨
      TakenFrom c rest (String.utf8EncodeChar c) := by
  rw [encode_eq]
  split
  · exact .inl ⟨by omega, rfl⟩
  · refine .inr ?_
    split
    · exact takenFrom_two (by omega) (by omega) rest
    · split
      · exact takenFrom_three (by omega) (by omega) rest
      · exact takenFrom_four (by omega) rest

/-! ## Decoding -/

theorem exists_cons_of_map_cons {ε : Type} {result : Except ε (List Char)}
    {c : Char} {characters : List Char}
    (decoded : (c :: ·) <$> result = .ok characters) :
    ∃ others, result = .ok others ∧ characters = c :: others := by
  cases result with
  | error fault => cases decoded
  | ok others =>
      cases decoded
      exact ⟨others, rfl, rfl⟩

/-- What is decoded encodes to the bytes. -/
theorem encoded_of_decodeFrom {fuel offset : Nat} {bytes : List UInt8}
    {characters : List Char} (enough : bytes.length ≤ fuel)
    (decoded : decodeFrom fuel offset bytes = .ok characters) :
    bytes = encoded characters := by
  induction fuel generalizing offset bytes characters with
  | zero =>
      cases bytes with
      | nil => cases decoded; rfl
      | cons first rest => cases enough
  | succ fuel induction =>
      cases bytes with
      | nil => cases decoded; rfl
      | cons first rest =>
          rw [List.length_cons] at enough
          rw [decodeFrom] at decoded
          split at decoded
          · rename_i isOne
            obtain ⟨others, decodedRest, rfl⟩ :=
              exists_cons_of_map_cons decoded
            rw [encoded_cons, encode_one ((lt_iff_toNat _).mp isOne),
              ← induction (by omega) decodedRest]
            rfl
          · split at decoded
            · cases decoded
            · rename_i tail starts
              split at decoded
              · cases decoded
              · rename_i code left takes
                obtain ⟨others, decodedRest, rfl⟩ :=
                  exists_cons_of_map_cons decoded
                obtain ⟨following, rfl, encodes⟩ :=
                  encode_of_takeTail starts takes
                rw [List.length_append] at enough
                rw [encoded_cons, encodes, ← induction (by omega) decodedRest]
                rfl

/-- What is encoded is decoded. -/
theorem decodeFrom_encoded {characters : List Char} {fuel offset : Nat}
    (enough : (encoded characters).length ≤ fuel) :
    decodeFrom fuel offset (encoded characters) = .ok characters := by
  induction characters generalizing fuel offset with
  | nil => cases fuel <;> rfl
  | cons c others induction =>
      rw [encoded_cons] at enough ⊢
      rcases takenFrom_encode c (encoded others) with ⟨small, encodes⟩ | taken
      · rw [encodes, List.singleton_append, List.length_cons] at enough
        obtain ⟨fuel, rfl⟩ := Nat.exists_eq_add_of_le' enough
        have first := toNat_ofNat_of_lt (n := c.toNat) (by omega)
        rw [encodes, List.singleton_append, ← Nat.add_assoc, decodeFrom,
          if_pos ((lt_iff_toNat _).mpr (by omega)), induction (by omega), first,
          Char.ofNat_toNat]
        rfl
      · cases encodes : String.utf8EncodeChar c with
        | nil => rw [encodes] at taken; exact taken.elim
        | cons first following =>
            rw [encodes] at taken
            obtain ⟨large, tail, starts, takes⟩ := taken
            rw [encodes, List.cons_append, List.length_cons,
              List.length_append] at enough
            obtain ⟨fuel, rfl⟩ := Nat.exists_eq_add_of_le' enough
            have isMore : ¬ first < 0x80 := fun small =>
              absurd ((lt_iff_toNat _).mp small) (by omega)
            rw [List.cons_append, ← Nat.add_assoc, decodeFrom, if_neg isMore,
              starts]
            dsimp only
            rw [takes]
            dsimp only
            rw [induction (by omega), Char.ofNat_toNat]
            rfl

/-- Decoding accepts exactly the bytes that characters encode to, and gives
these characters. -/
theorem decodeUtf8_eq_ok_iff {bytes : List UInt8} {characters : List Char} :
    decodeUtf8 bytes = .ok characters ↔ bytes = encoded characters := by
  constructor
  · exact encoded_of_decodeFrom (Nat.le_refl _)
  · rintro rfl
    exact decodeFrom_encoded (Nat.le_refl _)

end Text

end RoleGuard
