import ProfilePicker.Text.Basic

/-!
# Texts as bytes

UTF-8 written as bytes and read from bytes. Bytes that are no UTF-8 are met in pieces: the longest
beginning of a character that breaks off is one piece, and a byte that begins no character is one.
-/
namespace ProfilePicker.Utf8

/-- The bytes of a text. -/
def encode (s : Text) : List UInt8 := s.flatMap String.utf8EncodeChar

/-- What the first byte of a character says: the bits it holds itself, how many bytes follow,
and the bounds of the first of them, which keep out overlong forms and surrogates. -/
structure Lead where
  /-- The bits in the first byte. -/
  bits : Nat
  /-- How many bytes follow. -/
  more : Nat
  /-- The least first byte that follows. -/
  low : Nat
  /-- The greatest first byte that follows. -/
  high : Nat

/-- The first byte of a character, if it can be one. -/
def lead? (b : Nat) : Option Lead :=
  if b < 0x80 then some ⟨b, 0, 0x80, 0xbf⟩
  else if b < 0xc2 then none
  else if b < 0xe0 then some ⟨b - 0xc0, 1, 0x80, 0xbf⟩
  else if b = 0xe0 then some ⟨0, 2, 0xa0, 0xbf⟩
  else if b = 0xed then some ⟨0xd, 2, 0x80, 0x9f⟩
  else if b < 0xf0 then some ⟨b - 0xe0, 2, 0x80, 0xbf⟩
  else if b = 0xf0 then some ⟨0, 3, 0x90, 0xbf⟩
  else if b < 0xf4 then some ⟨b - 0xf0, 3, 0x80, 0xbf⟩
  else if b = 0xf4 then some ⟨4, 3, 0x80, 0x8f⟩
  else none

/-- The character whose bits so far are given, read on through the bytes that follow; nothing
if one of them does not fit, with the bytes from there on. -/
def continued (bits low high : Nat) : Nat → List UInt8 → Option Char × List UInt8
  | 0, bytes => (some (Char.ofNat bits), bytes)
  | _ + 1, [] => (none, [])
  | more + 1, b :: bytes =>
    if low ≤ b.toNat && b.toNat ≤ high then
      continued (bits * 64 + b.toNat % 64) 0x80 0xbf more bytes
    else (none, b :: bytes)

theorem continued_length_le (bits low high more : Nat) (bytes : List UInt8) :
    (continued bits low high more bytes).2.length ≤ bytes.length := by
  induction more generalizing bits low high bytes with
  | zero => simp [continued]
  | succ more ih =>
    cases bytes with
    | nil => simp [continued]
    | cons b bytes =>
      simp only [continued]
      split
      · exact Nat.le_trans (ih ..) (by simp)
      · simp

/-- The characters of some bytes; nothing stands for each piece that is no character. -/
def pieces : List UInt8 → List (Option Char)
  | [] => []
  | b :: bytes =>
    match lead? b.toNat with
    | none => none :: pieces bytes
    | some l =>
      have : (continued l.bits l.low l.high l.more bytes).2.length ≤ bytes.length :=
        continued_length_le ..
      (continued l.bits l.low l.high l.more bytes).1 ::
        pieces (continued l.bits l.low l.high l.more bytes).2
termination_by bytes => bytes.length

/-- The text of some bytes that are UTF-8 throughout. -/
def decode? (bytes : List UInt8) : Option Text := (pieces bytes).mapM id

/-- The text of some bytes, with a replacement character for every piece that is none. -/
def decodeReplacing (bytes : List UInt8) : Text := (pieces bytes).map (·.getD '\ufffd')

end ProfilePicker.Utf8
