import SpecAtlas.Text.Basic

/-!
# UTF-8

Texts are stored in files as UTF-8. `decodeStep` reads one character, or the longest invalid part:
what could still have begun a character when the first byte that does not fit, or the end, was
reached. Reading stops at the first invalid part or puts the replacement character in its place.
A character is written with the fewest bytes, and only that form is read.
-/

namespace SpecAtlas.Text.Utf8

/-! ## Writing -/

/-- The bytes of a character. -/
def encodeChar (c : Char) : List UInt8 :=
  let n := c.toNat
  let tail (place : Nat) : UInt8 := .ofNat (0x80 + n / place % 0x40)
  if n < 0x80 then [.ofNat n]
  else if n < 0x800 then [.ofNat (0xC0 + n / 0x40), tail 1]
  else if n < 0x10000 then [.ofNat (0xE0 + n / 0x1000), tail 0x40, tail 1]
  else [.ofNat (0xF0 + n / 0x40000), tail 0x1000, tail 0x40, tail 1]

/-- The bytes of a text. -/
def encode (text : Text) : List UInt8 := text.flatMap encodeChar

/-! ## Reading -/

/-- Why a part is invalid. -/
inductive Flaw where
  /-- No character begins with the first byte. -/
  | start
  /-- A byte does not go on with the character. -/
  | continuation
  /-- The bytes end inside the character. -/
  | truncated
  deriving DecidableEq, Repr

/-- What the first byte of a character announces: its own bits, how many bytes follow, and the
range of the byte behind it. -/
structure Lead where
  bits : Nat
  more : Nat
  low : Nat
  high : Nat

/-- What a first byte announces. The range of the second byte leaves out overlong forms, surrogates
and numbers beyond the last character. -/
def lead? (b : Nat) : Option Lead :=
  if 0xC2 ≤ b && b ≤ 0xDF then some ⟨b - 0xC0, 1, 0x80, 0xBF⟩
  else if b = 0xE0 then some ⟨0, 2, 0xA0, 0xBF⟩
  else if b = 0xED then some ⟨0xD, 2, 0x80, 0x9F⟩
  else if 0xE1 ≤ b && b ≤ 0xEF then some ⟨b - 0xE0, 2, 0x80, 0xBF⟩
  else if b = 0xF0 then some ⟨0, 3, 0x90, 0xBF⟩
  else if 0xF1 ≤ b && b ≤ 0xF3 then some ⟨b - 0xF0, 3, 0x80, 0xBF⟩
  else if b = 0xF4 then some ⟨4, 3, 0x80, 0x8F⟩
  else none

/-- What stands at the front of some bytes: a character, or an invalid part with the flaw and the
number of its bytes. -/
inductive Step where
  | char (c : Char) (rest : List UInt8)
  | invalid (flaw : Flaw) (size : Nat) (rest : List UInt8)

/-- Reads `more` further bytes of a character; `size` bytes are read and make up `bits`, and the
next byte lies between `low` and `high`. -/
def readMore (size bits low high : Nat) : Nat → List UInt8 → Step
  | 0, rest => .char (Char.ofNat bits) rest
  | _ + 1, [] => .invalid .truncated size []
  | more + 1, b :: rest =>
    if low ≤ b.toNat && b.toNat ≤ high then
      readMore (size + 1) (bits * 0x40 + b.toNat % 0x40) 0x80 0xBF more rest
    else .invalid .continuation size (b :: rest)

/-- Reads what begins with a given byte. -/
def decodeStep (b : UInt8) (rest : List UInt8) : Step :=
  if b.toNat < 0x80 then .char (Char.ofNat b.toNat) rest
  else
    match lead? b.toNat with
    | some lead => readMore 1 lead.bits lead.low lead.high lead.more rest
    | none => .invalid .start 1 rest

/-- The bytes behind a step. -/
def Step.rest : Step → List UInt8
  | char _ rest => rest
  | invalid _ _ rest => rest

theorem length_rest_readMore_le (more : Nat) (bytes : List UInt8) (size bits low high : Nat) :
    (readMore size bits low high more bytes).rest.length ≤ bytes.length := by
  induction more generalizing bytes size bits low high with
  | zero => simp [readMore, Step.rest]
  | succ more ih =>
    cases bytes with
    | nil => simp [readMore, Step.rest]
    | cons b rest =>
      simp only [readMore]
      split
      · exact Nat.le_succ_of_le (ih ..)
      · simp [Step.rest]

/-- A step takes at least its first byte. -/
theorem length_rest_decodeStep_le (b : UInt8) (rest : List UInt8) :
    (decodeStep b rest).rest.length ≤ rest.length := by
  unfold decodeStep
  split
  · simp [Step.rest]
  · split
    · exact length_rest_readMore_le ..
    · simp [Step.rest]

/-- An invalid part of some bytes: the flaw, its first byte, its place and its size. -/
structure Invalid where
  flaw : Flaw
  byte : UInt8
  position : Nat
  size : Nat
  deriving DecidableEq, Repr

/-- The text that bytes spell from `position` on, or the first invalid part. -/
def decodeFrom (position : Nat) (bytes : List UInt8) : Except Invalid Text :=
  match bytes with
  | [] => .ok []
  | b :: rest =>
    have := length_rest_decodeStep_le b rest
    match h : decodeStep b rest with
    | .char c behind =>
      have : behind.length < rest.length + 1 := by rw [h] at this; exact Nat.lt_succ_of_le this
      (decodeFrom (position + (rest.length + 1 - behind.length)) behind).map (c :: ·)
    | .invalid flaw size _ => .error ⟨flaw, b, position, size⟩
termination_by bytes.length

/-- The text that bytes spell, or the first invalid part. -/
def decode (bytes : List UInt8) : Except Invalid Text := decodeFrom 0 bytes

/-- The text that bytes spell, with the replacement character for every invalid part. -/
def decodeLossy (bytes : List UInt8) : Text :=
  match bytes with
  | [] => []
  | b :: rest =>
    have := length_rest_decodeStep_le b rest
    match h : decodeStep b rest with
    | .char c behind =>
      have : behind.length < rest.length + 1 := by rw [h] at this; exact Nat.lt_succ_of_le this
      c :: decodeLossy behind
    | .invalid _ _ behind =>
      have : behind.length < rest.length + 1 := by rw [h] at this; exact Nat.lt_succ_of_le this
      Char.ofNat 0xFFFD :: decodeLossy behind
termination_by bytes.length

end SpecAtlas.Text.Utf8
