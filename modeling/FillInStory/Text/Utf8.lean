import FillInStory.Text.Basic

/-! # Texts as UTF-8 bytes

File contents, file names and request bodies are byte lists. `Text.utf8` writes a text as bytes;
`Text.decode` reads bytes back and marks each part that is not well formed, where a part reaches as
far as the bytes could still have begun a character. Reading strictly refuses a mark and reading
leniently puts the replacement character in its place.
-/

namespace FillInStory.Text

def utf8 (t : Text) : List UInt8 := t.flatMap String.utf8EncodeChar

/-- The character that the bytes begin with, when they begin with the whole encoding of one. -/
def leadingChar? (bytes : List UInt8) : Option Char :=
  ByteArray.utf8DecodeChar? ⟨(bytes.take 4).toArray⟩ 0

/-- The values that the second byte of a character may take after its first byte; no value when
the first byte begins no character of several bytes. -/
def secondByteRange (first : UInt8) : Option (UInt8 × UInt8) :=
  if 0xC2 ≤ first && first ≤ 0xDF then some (0x80, 0xBF)
  else if first = 0xE0 then some (0xA0, 0xBF)
  else if first = 0xED then some (0x80, 0x9F)
  else if 0xE1 ≤ first && first ≤ 0xEF then some (0x80, 0xBF)
  else if first = 0xF0 then some (0x90, 0xBF)
  else if first = 0xF4 then some (0x80, 0x8F)
  else if 0xF1 ≤ first && first ≤ 0xF3 then some (0x80, 0xBF)
  else none

def announcedLength (first : UInt8) : Nat :=
  if first < 0xC0 then 1 else if first < 0xE0 then 2 else if first < 0xF0 then 3 else 4

/-- The length of an ill-formed part: its first byte, with those bytes after it that could still
have continued the character. -/
def illFormedLength : List UInt8 → Nat
  | [] => 0
  | [_] => 1
  | first :: second :: rest =>
    match secondByteRange first with
    | none => 1
    | some (low, high) =>
      if low ≤ second && second ≤ high then
        2 + ((rest.take (announcedLength first - 3)).takeWhile fun b => 0x80 ≤ b && b ≤ 0xBF).length
      else 1

/-- The characters of the bytes, `none` standing for each ill-formed part. The number says how many
bytes of the character read last are still ahead. -/
def decodeFrom : Nat → List UInt8 → List (Option Char)
  | _, [] => []
  | ahead + 1, _ :: rest => decodeFrom ahead rest
  | 0, first :: rest =>
    match leadingChar? (first :: rest) with
    | some c => some c :: decodeFrom (c.utf8Size - 1) rest
    | none => none :: decodeFrom (illFormedLength (first :: rest) - 1) rest

/-- The characters of the bytes, `none` standing for each ill-formed part. -/
def decode (bytes : List UInt8) : List (Option Char) := decodeFrom 0 bytes

/-- The text that the bytes encode, if they are well formed. -/
def ofUtf8? (bytes : List UInt8) : Option Text :=
  let parts := decode bytes
  if parts.all Option.isSome then some (parts.filterMap id) else none

/-- The text of the bytes, with the replacement character for each ill-formed part. -/
def ofUtf8Lossy (bytes : List UInt8) : Text := (decode bytes).map (·.getD '\uFFFD')

@[simp] theorem utf8_nil : utf8 [] = [] := rfl

@[simp] theorem utf8_cons (c : Char) (t : Text) : utf8 (c :: t) = String.utf8EncodeChar c ++ utf8 t := rfl

@[simp] theorem utf8_append (s t : Text) : utf8 (s ++ t) = utf8 s ++ utf8 t := by
  simp [utf8]

theorem length_utf8 (t : Text) : (utf8 t).length = t.byteSize := by
  induction t with
  | nil => rfl
  | cons c t ih => simp [ih]

end FillInStory.Text
