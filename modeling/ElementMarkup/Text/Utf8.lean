import ElementMarkup.Text.Lines

/-!
# Bytes and text

Files hold bytes. They are read as UTF-8, which can fail, or as Latin-1, which cannot. A fault
names the bytes that could not be read and why.
-/

namespace ElementMarkup.Text

/-- How the bytes of a file stand for characters. -/
inductive Encoding where
  | utf8
  | latin1
  deriving DecidableEq, Repr

/-- Why bytes are not UTF-8. -/
inductive Utf8Reason where
  | invalidStart
  | invalidContinuation
  | unexpectedEnd
  deriving DecidableEq, Repr

/-- The bytes that are not UTF-8: where they start, how many they are, the first of them, and what
is wrong. -/
structure Utf8Fault where
  position : Nat
  width : Nat
  firstByte : UInt8
  reason : Utf8Reason
  deriving DecidableEq, Repr

/-- A byte that continues a character. -/
def isContinuation (b : UInt8) : Bool :=
  0x80 ≤ b.toNat && b.toNat < 0xc0

/-- The payload of a continuation byte. -/
def payload (b : UInt8) : Nat :=
  b.toNat % 64

/-- The second byte of a three-byte character: it may neither start an overlong form nor a
surrogate. -/
def isSecondOfThree (b₁ b₂ : UInt8) : Bool :=
  isContinuation b₂ && (b₁.toNat != 0xe0 || 0xa0 ≤ b₂.toNat) &&
    (b₁.toNat != 0xed || b₂.toNat < 0xa0)

/-- The second byte of a four-byte character: it may neither start an overlong form nor leave the
code space. -/
def isSecondOfFour (b₁ b₂ : UInt8) : Bool :=
  isContinuation b₂ && (b₁.toNat != 0xf0 || 0x90 ≤ b₂.toNat) &&
    (b₁.toNat != 0xf4 || b₂.toNat < 0x90)

/-- The first character of the bytes and the number of bytes after its first one, or the number of
bytes at fault and what is wrong. -/
def decodeFirst (b₁ : UInt8) (rest : List UInt8) : Except (Nat × Utf8Reason) (Char × Nat) :=
  let n := b₁.toNat
  if n < 0x80 then .ok (Char.ofNat n, 0)
  else if n < 0xc2 then .error (1, .invalidStart)
  else if n < 0xe0 then
    match rest with
    | [] => .error (1, .unexpectedEnd)
    | b₂ :: _ =>
      if isContinuation b₂ then .ok (Char.ofNat (n % 32 * 64 + payload b₂), 1)
      else .error (1, .invalidContinuation)
  else if n < 0xf0 then
    match rest with
    | [] => .error (1, .unexpectedEnd)
    | [b₂] =>
      .error (if isSecondOfThree b₁ b₂ then (2, .unexpectedEnd) else (1, .invalidContinuation))
    | b₂ :: b₃ :: _ =>
      if !isSecondOfThree b₁ b₂ then .error (1, .invalidContinuation)
      else if !isContinuation b₃ then .error (2, .invalidContinuation)
      else .ok (Char.ofNat ((n % 16 * 64 + payload b₂) * 64 + payload b₃), 2)
  else if n < 0xf5 then
    match rest with
    | [] => .error (1, .unexpectedEnd)
    | [b₂] =>
      .error (if isSecondOfFour b₁ b₂ then (2, .unexpectedEnd) else (1, .invalidContinuation))
    | [b₂, b₃] =>
      .error (if !isSecondOfFour b₁ b₂ then (1, .invalidContinuation)
        else if isContinuation b₃ then (3, .unexpectedEnd) else (2, .invalidContinuation))
    | b₂ :: b₃ :: b₄ :: _ =>
      if !isSecondOfFour b₁ b₂ then .error (1, .invalidContinuation)
      else if !isContinuation b₃ then .error (2, .invalidContinuation)
      else if !isContinuation b₄ then .error (3, .invalidContinuation)
      else .ok (Char.ofNat (((n % 8 * 64 + payload b₂) * 64 + payload b₃) * 64 + payload b₄), 3)
  else .error (1, .invalidStart)

/-- The characters of bytes from `position` on, the first `pending` bytes belonging to a character
that has been read already. -/
def decodeUtf8From (position pending : Nat) : List UInt8 → Except Utf8Fault (List Char)
  | [] => .ok []
  | b :: rest =>
    match pending with
    | pending + 1 => decodeUtf8From (position + 1) pending rest
    | 0 =>
      match decodeFirst b rest with
      | .error (width, reason) => .error ⟨position, width, b, reason⟩
      | .ok (c, more) => do
        let cs ← decodeUtf8From (position + 1) more rest
        return c :: cs

/-- The text of a file, with its line ends unified. -/
def decodeFile (encoding : Encoding) (bytes : List UInt8) : Except Utf8Fault (List Char) := do
  let cs ←
    match encoding with
    | .utf8 => decodeUtf8From 0 0 bytes
    | .latin1 => .ok (bytes.map fun b => Char.ofNat b.toNat)
  return unifyFileLineEnds cs

end ElementMarkup.Text
