import MemoryFabric.Text.Quoted

/-!
# Units of size

A size in text is a number and a unit.  Units count bytes or bits, in powers of 1000 or, with an `i`, of
1024; an upper-case `B` stands for bytes and a lower-case `b` for bits.  This module reads the unit; a
character that cannot follow is reported together with the characters that could.
-/

namespace MemoryFabric.ByteSize

set_option autoImplicit false

/-- A unit of size. -/
inductive SizeUnit where
  /-- One bit. -/
  | bit
  /-- A whole number of bytes. -/
  | bytes (count : Nat)
  deriving DecidableEq, Repr

/-- A character that cannot stand where it stands. -/
structure Unexpected where
  character : Char
  expected : List Char
  orNothing : Bool
  deriving DecidableEq, Repr

/-- Alternatives in a row, the last one after `or`. -/
def alternatives : List String → String
  | [] => ""
  | [last] => last
  | [first, last] => first ++ " or " ++ last
  | first :: rest => first ++ ", " ++ alternatives rest

/-- The report on an unexpected character. -/
def Unexpected.message (report : Unexpected) : String :=
  let expected := alternatives (report.expected.map Text.quotedCharacter)
  let wanted :=
    if report.expected.isEmpty then "no character is expected"
    else if report.orNothing then expected ++ " or no character is expected"
    else expected ++ " is expected"
  s!"the character {Text.quotedCharacter report.character} is incorrect ({wanted})"

/-- What may follow a `b` or `B`: nothing, or `it` or `its` in any case.  Tells whether the ending was
there. -/
def readBitEnding : List Char → Except Unexpected Bool
  | [] => .ok false
  | i :: rest =>
    if i.toLower ≠ 'i' then .error ⟨i, ['i'], true⟩
    else
      match rest with
      | [] => .error ⟨i, [], true⟩
      | t :: rest =>
        if t.toLower ≠ 't' then .error ⟨t, ['t'], false⟩
        else
          match rest with
          | [] => .ok true
          | s :: rest =>
            if s.toLower ≠ 's' then .error ⟨s, ['s'], true⟩
            else
              match rest with
              | [] => .ok true
              | extra :: _ => .error ⟨extra, [], true⟩

/-- The unit of `scale` bytes or bits, by what follows the power: nothing or `B` for bytes, `b` or a
spelled-out bit for bits. -/
def readScaled (scale : Nat) : List Char → Except Unexpected SizeUnit
  | [] => .ok (.bytes scale)
  | 'B' :: rest => do
    let spelled ← readBitEnding rest
    return .bytes (if spelled then scale / 8 else scale)
  | 'b' :: rest => do
    let _ ← readBitEnding rest
    return .bytes (scale / 8)
  | other :: _ => .error ⟨other, ['B', 'b'], true⟩

/-- A power of 1000, or of 1024 when an `i` follows. -/
def readPower (power : Nat) : List Char → Except Unexpected SizeUnit
  | 'i' :: rest => readScaled (Nat.pow 1024 power) rest
  | 'I' :: rest => readScaled (Nat.pow 1024 power) rest
  | rest => readScaled (Nat.pow 1000 power) rest

/-- The letters of the powers, from the first power on. -/
def powerLetters : List Char := ['K', 'M', 'G', 'T', 'P', 'E']

/-- Read a unit that takes up all characters; no characters stand for bytes. -/
def SizeUnit.read : List Char → Except Unexpected SizeUnit
  | [] => .ok (.bytes 1)
  | 'B' :: rest => do
    let spelled ← readBitEnding rest
    return if spelled then .bit else .bytes 1
  | 'b' :: rest => do
    let _ ← readBitEnding rest
    return .bit
  | letter :: rest =>
    match powerLetters.findIdx? (· = letter.toUpper) with
    | some index => readPower (index + 1) rest
    | none => .error ⟨letter, 'B' :: powerLetters, true⟩

end MemoryFabric.ByteSize
