/-!
# UTF-8

Reading bytes as text. Bytes that belong to no character are read as the replacement character,
one for each maximal part that could have started a character; a strict reader refuses them
instead and says where and why.
-/

namespace Cyclomatic.Text

/-- The character that stands for bytes that cannot be read. -/
def replacementChar : Char := '\uFFFD'

/-- What may follow a first byte: how many further bytes its character has, the bits that the
first byte contributes, and the least and greatest second byte. -/
structure Lead where
  more : Nat
  bits : Nat
  least : Nat
  greatest : Nat

/-- The shape of the characters that start with a byte, if any do and have more than one byte. -/
def Lead.ofByte? (b : Nat) : Option Lead :=
  if 0xC2 ≤ b && b ≤ 0xDF then some ⟨1, b - 0xC0, 0x80, 0xBF⟩
  else if b == 0xE0 then some ⟨2, 0, 0xA0, 0xBF⟩
  else if b == 0xED then some ⟨2, 0xD, 0x80, 0x9F⟩
  else if 0xE1 ≤ b && b ≤ 0xEF then some ⟨2, b - 0xE0, 0x80, 0xBF⟩
  else if b == 0xF0 then some ⟨3, 0, 0x90, 0xBF⟩
  else if b == 0xF4 then some ⟨3, 4, 0x80, 0x8F⟩
  else if 0xF1 ≤ b && b ≤ 0xF3 then some ⟨3, b - 0xF0, 0x80, 0xBF⟩
  else none

/-- Why bytes belong to no character. -/
inductive Utf8Fault where
  /-- No character starts with this byte. -/
  | badStart
  /-- A byte stands where a character has to go on with another one. -/
  | badContinuation
  /-- The bytes end inside a character. -/
  | cutOff
deriving DecidableEq, Repr

/-- What stands at the front of some bytes. -/
inductive Utf8Piece where
  | char (c : Char)
  | invalid (fault : Utf8Fault)

/-- Reads the rest of a character of which `count` bytes are read and `more` are missing, of
which the next lies between `least` and `greatest`. Gives the piece, how many bytes it has and
the bytes after it. -/
def readTail (count bits least greatest : Nat) : Nat → List UInt8 → Utf8Piece × Nat × List UInt8
  | 0, rest => (.char (Char.ofNat bits), count, rest)
  | _ + 1, [] => (.invalid .cutOff, count, [])
  | more + 1, b :: rest =>
      if least ≤ b.toNat && b.toNat ≤ greatest then
        readTail (count + 1) (bits * 64 + (b.toNat - 0x80)) 0x80 0xBF more rest
      else (.invalid .badContinuation, count, b :: rest)

/-- Reads the first piece of bytes that start with `b`. -/
def readPiece (b : UInt8) (rest : List UInt8) : Utf8Piece × Nat × List UInt8 :=
  if b.toNat < 0x80 then (.char (Char.ofNat b.toNat), 1, rest)
  else
    match Lead.ofByte? b.toNat with
    | none => (.invalid .badStart, 1, rest)
    | some lead => readTail 1 lead.bits lead.least lead.greatest lead.more rest

theorem readTail_length_le (count bits least greatest more : Nat) (rest : List UInt8) :
    (readTail count bits least greatest more rest).2.2.length ≤ rest.length := by
  induction rest generalizing count bits least greatest more with
  | nil => cases more <;> simp [readTail]
  | cons b rest ih =>
      cases more with
      | zero => simp [readTail]
      | succ more =>
          rw [readTail]
          split
          · exact Nat.le_trans (ih _ _ _ _ _) (Nat.le_succ _)
          · simp

theorem readPiece_length_lt (b : UInt8) (rest : List UInt8) :
    (readPiece b rest).2.2.length < (b :: rest).length := by
  have tail := fun lead : Lead =>
    readTail_length_le 1 lead.bits lead.least lead.greatest lead.more rest
  unfold readPiece
  split
  · simp
  · split
    · simp
    · exact Nat.lt_succ_of_le (tail _)

/-- Decodes bytes after those decoded to `done`, which is in reverse order. -/
def decodeOnto (done : List Char) (bytes : List UInt8) : List Char :=
  match bytes with
  | [] => done.reverse
  | b :: rest =>
      let piece := readPiece b rest
      match piece.1 with
      | .char c => decodeOnto (c :: done) piece.2.2
      | .invalid _ => decodeOnto (replacementChar :: done) piece.2.2
termination_by bytes.length
decreasing_by
  all_goals exact readPiece_length_lt b rest

/-- Decodes bytes, with replacement characters for the invalid parts. -/
def decode (bytes : List UInt8) : List Char :=
  decodeOnto [] bytes

/-- An invalid part: its first byte, where it starts, how many bytes it has and what is wrong. -/
structure Utf8Error where
  byte : UInt8
  start : Nat
  count : Nat
  fault : Utf8Fault
deriving DecidableEq, Repr

/-- Decodes bytes of which `start` are decoded already, or finds the first invalid part. -/
def decodeStrictOnto (start : Nat) (done : List Char) (bytes : List UInt8) :
    Except Utf8Error (List Char) :=
  match bytes with
  | [] => .ok done.reverse
  | b :: rest =>
      let piece := readPiece b rest
      match piece.1 with
      | .char c => decodeStrictOnto (start + piece.2.1) (c :: done) piece.2.2
      | .invalid fault => .error ⟨b, start, piece.2.1, fault⟩
termination_by bytes.length
decreasing_by
  exact readPiece_length_lt b rest

/-- Decodes bytes all of which have to be valid. -/
def decodeStrict (bytes : List UInt8) : Except Utf8Error (List Char) :=
  decodeStrictOnto 0 [] bytes

end Cyclomatic.Text
