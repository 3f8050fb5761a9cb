/-! # UTF-8

Bytes as text. A sequence of bytes is read one step at a time: a step is a character, or the longest beginning of a
character that a wrong byte, or the end, cuts off. -/

namespace Switchboard.Text

/-- The bytes of a text. -/
def utf8 (s : String) : List UInt8 :=
  s.toUTF8.toList

/-- What the first bytes of a sequence are. -/
inductive Utf8Step where
  /-- A character of some bytes. -/
  | character (c : Char) (size : Nat)
  /-- Some bytes that begin no character. -/
  | invalid (size : Nat)
  deriving Repr

/-- A byte that can follow the first of a character. -/
def isContinuation (b : UInt8) : Bool :=
  0x80 ≤ b && b ≤ 0xBF

/-- The least and greatest byte that can follow a first byte, and how many follow in all. -/
def continuationRange? (b : UInt8) : Option (UInt8 × UInt8 × Nat) :=
  if 0xC2 ≤ b && b ≤ 0xDF then some (0x80, 0xBF, 1)
  else if b == 0xE0 then some (0xA0, 0xBF, 2)
  else if b == 0xED then some (0x80, 0x9F, 2)
  else if 0xE1 ≤ b && b ≤ 0xEF then some (0x80, 0xBF, 2)
  else if b == 0xF0 then some (0x90, 0xBF, 3)
  else if 0xF1 ≤ b && b ≤ 0xF3 then some (0x80, 0xBF, 3)
  else if b == 0xF4 then some (0x80, 0x8F, 3)
  else none

/-- The low six bits of a byte. -/
def payload (b : UInt8) : Nat :=
  b.toNat % 64

/-- The first step of a sequence that starts with a given byte. -/
def utf8Step (b : UInt8) (rest : List UInt8) : Utf8Step :=
  if b < 0x80 then .character (Char.ofNat b.toNat) 1
  else match continuationRange? b with
    | none => .invalid 1
    | some (low, high, count) =>
      match rest with
      | [] => .invalid 1
      | c :: rest =>
        if !(low ≤ c && c ≤ high) then .invalid 1
        else if count = 1 then .character (Char.ofNat (b.toNat % 32 * 64 + payload c)) 2
        else match rest with
          | [] => .invalid 2
          | d :: rest =>
            if !isContinuation d then .invalid 2
            else if count = 2 then .character (Char.ofNat ((b.toNat % 16 * 64 + payload c) * 64 + payload d)) 3
            else match rest with
              | [] => .invalid 3
              | e :: _ =>
                if !isContinuation e then .invalid 3
                else .character (Char.ofNat (((b.toNat % 8 * 64 + payload c) * 64 + payload d) * 64 + payload e)) 4

/-- Reads bytes as characters. `replace` says what stands for bytes that begin no character; without it the reading
fails there, with the number of bytes before them. -/
def decodeUtf8With (replace : Option Char) (before : Nat) : List UInt8 → Except Nat (List Char)
  | [] => .ok []
  | b :: rest =>
    match utf8Step b rest with
    | .character c size => (decodeUtf8With replace (before + size) (rest.drop (size - 1))).map (c :: ·)
    | .invalid size =>
      match replace with
      | some c => (decodeUtf8With replace (before + size) (rest.drop (size - 1))).map (c :: ·)
      | none => .error before
termination_by bytes => bytes.length

/-- The text with the given bytes, or the number of bytes before the first that are no text. -/
def decodeUtf8 (bytes : List UInt8) : Except Nat String :=
  (decodeUtf8With none 0 bytes).map String.ofList

/-- The text with the given bytes, if they are one. -/
def decodeUtf8? (bytes : List UInt8) : Option String :=
  (decodeUtf8 bytes).toOption

/-- The bytes as text, with a replacement character for each run of bytes that begin no character. -/
def decodeUtf8Lossy (bytes : List UInt8) : String :=
  match decodeUtf8With (some '\ufffd') 0 bytes with
  | .ok cs => String.ofList cs
  | .error _ => ""

end Switchboard.Text
