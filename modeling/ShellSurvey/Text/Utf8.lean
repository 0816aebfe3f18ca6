import ShellSurvey.Text.Digit
import ShellSurvey.Text.Hex

namespace ShellSurvey

abbrev Bytes := List UInt8

/-- Why a sequence of bytes is no character. -/
inductive Flaw where
  | badLead
  | badContinuation
  | cutShort
  deriving DecidableEq, Repr

/-- What the front of a sequence of bytes holds: a character or a flaw. The number counts the bytes
that belong to it after the first one. -/
inductive Piece where
  | scalar (c : Char) (further : Nat)
  | flawed (flaw : Flaw) (further : Nat)
  deriving DecidableEq, Repr

def Piece.further : Piece → Nat
  | .scalar _ further => further
  | .flawed _ further => further

def isContinuation (b : UInt8) : Bool := 0x80 ≤ b && b ≤ 0xBF

/-- The piece whose lead byte holds `high`, whose next byte must lie in a given range, and which
has `more` plain continuation bytes after that. -/
def pieceAfter (high : Nat) (low top : UInt8) (more : Nat) : Bytes → Piece
  | [] => .flawed .cutShort 0
  | second :: rest =>
    if second < low || top < second then .flawed .badContinuation 0
    else
      let first := high * 64 + (second.toNat - 0x80)
      match more, rest with
      | 0, _ => .scalar (Char.ofNat first) 1
      | _ + 1, [] => .flawed .cutShort 1
      | more + 1, third :: rest =>
        if !isContinuation third then .flawed .badContinuation 1
        else
          let next := first * 64 + (third.toNat - 0x80)
          match more, rest with
          | 0, _ => .scalar (Char.ofNat next) 2
          | _, [] => .flawed .cutShort 2
          | _, fourth :: _ =>
            if !isContinuation fourth then .flawed .badContinuation 2
            else .scalar (Char.ofNat (next * 64 + (fourth.toNat - 0x80))) 3

/-- The piece at the front of `lead :: rest`. Overlong forms, surrogates and codes past the last
character are ruled out by the range of the second byte. -/
def pieceAt (lead : UInt8) (rest : Bytes) : Piece :=
  if lead < 0x80 then .scalar (Char.ofNat lead.toNat) 0
  else if lead < 0xC2 then .flawed .badLead 0
  else if lead < 0xE0 then pieceAfter (lead.toNat - 0xC0) 0x80 0xBF 0 rest
  else if lead == 0xE0 then pieceAfter 0 0xA0 0xBF 1 rest
  else if lead == 0xED then pieceAfter 0x0D 0x80 0x9F 1 rest
  else if lead < 0xF0 then pieceAfter (lead.toNat - 0xE0) 0x80 0xBF 1 rest
  else if lead == 0xF0 then pieceAfter 0 0x90 0xBF 2 rest
  else if lead < 0xF4 then pieceAfter (lead.toNat - 0xF0) 0x80 0xBF 2 rest
  else if lead == 0xF4 then pieceAfter 4 0x80 0x8F 2 rest
  else .flawed .badLead 0

def replacement : Char := Char.ofNat 0xFFFD

/-- The lossy reader, with the characters read so far in reverse. -/
def decodeOnto (done : List Char) : Bytes → List Char
  | [] => done.reverse
  | lead :: rest =>
    match pieceAt lead rest with
    | .scalar c further => decodeOnto (c :: done) (rest.drop further)
    | .flawed _ further => decodeOnto (replacement :: done) (rest.drop further)
termination_by bytes => bytes.length
decreasing_by all_goals simp only [List.length_cons, List.length_drop]; omega

/-- The text of any bytes, with a replacement character for each flawed piece. -/
def decodeLossy (bytes : Bytes) : List Char := decodeOnto [] bytes

theorem decodeOnto_eq (done : List Char) (bytes : Bytes) :
    decodeOnto done bytes = done.reverse ++ decodeLossy bytes := by
  unfold decodeLossy
  induction h : bytes.length using Nat.strongRecOn generalizing done bytes with
  | _ n ih =>
    cases bytes with
    | nil => simp [decodeOnto]
    | cons lead rest =>
      have shorter : ∀ further, (rest.drop further).length < n := by
        intro further
        simp only [List.length_cons] at h
        simp only [List.length_drop]
        omega
      rw [decodeOnto, decodeOnto]
      split <;> rename_i further _ <;>
        rw [ih _ (shorter further) _ _ rfl, ih _ (shorter further) [_] _ rfl] <;> simp

@[simp] theorem decodeLossy_nil : decodeLossy [] = [] := by simp [decodeLossy, decodeOnto]

theorem decodeLossy_cons (lead : UInt8) (rest : Bytes) :
    decodeLossy (lead :: rest) =
      (match pieceAt lead rest with
        | .scalar c _ => c
        | .flawed _ _ => replacement) :: decodeLossy (rest.drop (pieceAt lead rest).further) := by
  rw [decodeLossy, decodeOnto]
  cases pieceAt lead rest <;> simp [decodeOnto_eq, Piece.further]

/-- A flawed piece within a run of bytes: where it starts, how long it is, its first byte, and what
is wrong with it. -/
structure Malformation where
  start : Nat
  width : Nat
  lead : UInt8
  flaw : Flaw
  deriving DecidableEq, Repr

def Flaw.message : Flaw → String
  | .badLead => "invalid start byte"
  | .badContinuation => "invalid continuation byte"
  | .cutShort => "unexpected end of data"

def Malformation.message (malformation : Malformation) : String :=
  let start := malformation.start
  let place :=
    if malformation.width = 1 then
      "byte 0x" ++ .ofList (hexDigits 2 malformation.lead.toNat) ++ " in position " ++ natText start
    else
      "bytes in position " ++ natText start ++ "-" ++ natText (start + malformation.width - 1)
  "'utf-8' codec can't decode " ++ place ++ ": " ++ malformation.flaw.message

/-- The end of a block that might become a character, or the three bytes of a surrogate, with what
follows in the next block. -/
def isUnfinished (lead : UInt8) (rest : Bytes) : Bool :=
  match pieceAt lead rest, rest with
  | .flawed .cutShort _, _ => true
  | _, [second] => lead == 0xED && isContinuation second
  | _, _ => false

/-- The characters of a block of bytes, in reverse and onto earlier ones, and its unfinished end.
Positions count from the start of the block. -/
def decodeBlockOnto (position : Nat) (done : List Char) :
    Bytes → Except Malformation (List Char × Bytes)
  | [] => .ok (done, [])
  | lead :: rest =>
    if isUnfinished lead rest then .ok (done, lead :: rest)
    else
      match pieceAt lead rest with
      | .scalar c further =>
        decodeBlockOnto (position + 1 + further) (c :: done) (rest.drop further)
      | .flawed flaw further => .error ⟨position, 1 + further, lead, flaw⟩
termination_by bytes => bytes.length
decreasing_by simp only [List.length_cons, List.length_drop]; omega

/-- How many bytes the strict reader takes at a time. -/
def blockSize : Nat := 8192

/-- The strict reader, with the characters read so far in reverse and the bytes held back from the
block before. Those come first in the next block; at the end there is no block to complete them. -/
def decodeStrictlyOnto (done : List Char) (held : Bytes) (bytes : Bytes) :
    Except Malformation (List Char) :=
  match bytes, held with
  | [], [] => .ok done.reverse
  | [], lead :: rest =>
    match pieceAt lead rest with
    | .scalar c _ => .ok (c :: done).reverse
    | .flawed flaw further => .error ⟨0, 1 + further, lead, flaw⟩
  | b :: more, held =>
    match decodeBlockOnto 0 done (held ++ (b :: more).take blockSize) with
    | .error malformation => .error malformation
    | .ok (done, held) => decodeStrictlyOnto done held ((b :: more).drop blockSize)
termination_by bytes.length
decreasing_by simp only [blockSize, List.length_cons, List.length_drop]; omega

/-- The text of well-formed bytes. A malformation is placed in the block in which it is met. -/
def decodeStrictly (bytes : Bytes) : Except Malformation (List Char) := decodeStrictlyOnto [] [] bytes

end ShellSurvey
