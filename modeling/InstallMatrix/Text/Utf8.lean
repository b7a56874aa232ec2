/-!
# `InstallMatrix.Text.Utf8`: octets as text

Octets reach the library from files and from the output of engine commands.
`scan` cuts any octet list into `Piece`s: characters, runs that no longer
sequence can repair, and an unfinished sequence at the end. Two readings are
made from the pieces: `decode` refuses the first bad piece and says where it
stands, `decodeLossy` writes U+FFFD for every bad piece.

Definitions: `Octets`, `encode`, `Piece`, `scan`, `Fault`, `decode`,
`decodeLossy`.
-/

set_option autoImplicit false

namespace InstallMatrix.Text

/-- Raw file contents or command output. -/
abbrev Octets := List UInt8

namespace Utf8

/-- The octets of a text. -/
def encode (s : String) : Octets :=
  s.toList.flatMap String.utf8EncodeChar

/-- One unit of an octet list. -/
inductive Piece
  /-- A complete character written in `width` octets. -/
  | char (c : Char) (width : Nat)
  /-- A run of `width` octets with which no character begins. -/
  | invalid (width : Nat)
  /-- The first `width` octets of a character, cut off by the end. -/
  | truncated (width : Nat)

/-- The number of octets in a piece. -/
def Piece.width : Piece → Nat
  | .char _ w => w
  | .invalid w => w
  | .truncated w => w

/-- Is `b` an octet that continues a character. -/
def isContinuation (b : UInt8) : Bool :=
  0x80 ≤ b && b ≤ 0xBF

/-- May `b` follow the first octet `a` of a three octet character. Surrogates and
overlong forms are refused here. -/
def isSecondOfThree (a b : UInt8) : Bool :=
  if a = 0xE0 then 0xA0 ≤ b && b ≤ 0xBF
  else if a = 0xED then 0x80 ≤ b && b ≤ 0x9F
  else isContinuation b

/-- May `b` follow the first octet `a` of a four octet character. Overlong forms
and numbers above U+10FFFF are refused here. -/
def isSecondOfFour (a b : UInt8) : Bool :=
  if a = 0xF0 then 0x90 ≤ b && b ≤ 0xBF
  else if a = 0xF4 then 0x80 ≤ b && b ≤ 0x8F
  else isContinuation b

/-- The character whose number is assembled from `lead` and the low six bits of
each octet in `tail`. -/
def assemble (lead : Nat) (tail : List UInt8) : Char :=
  Char.ofNat (tail.foldl (fun n b => n * 64 + b.toNat % 64) lead)

/-- The pieces of an octet list, in order. -/
def scan : Octets → List Piece
  | [] => []
  | a :: r =>
    if a < 0x80 then .char (assemble a.toNat []) 1 :: scan r
    else if 0xC2 ≤ a && a ≤ 0xDF then
      match r with
      | [] => [.truncated 1]
      | b :: r₁ =>
        if isContinuation b then .char (assemble (a.toNat % 32) [b]) 2 :: scan r₁
        -- A fault spans the octets that began a character. Reading goes on right behind them.
        else .invalid 1 :: scan (b :: r₁)
    else if 0xE0 ≤ a && a ≤ 0xEF then
      match r with
      | [] => [.truncated 1]
      | b :: r₁ =>
        if isSecondOfThree a b then
          match r₁ with
          | [] => [.truncated 2]
          | c :: r₂ =>
            if isContinuation c then .char (assemble (a.toNat % 16) [b, c]) 3 :: scan r₂
            else .invalid 2 :: scan (c :: r₂)
        else .invalid 1 :: scan (b :: r₁)
    else if 0xF0 ≤ a && a ≤ 0xF4 then
      match r with
      | [] => [.truncated 1]
      | b :: r₁ =>
        if isSecondOfFour a b then
          match r₁ with
          | [] => [.truncated 2]
          | c :: r₂ =>
            if isContinuation c then
              match r₂ with
              | [] => [.truncated 3]
              | d :: r₃ =>
                if isContinuation d then
                  .char (assemble (a.toNat % 8) [b, c, d]) 4 :: scan r₃
                else .invalid 3 :: scan (d :: r₃)
            else .invalid 2 :: scan (c :: r₂)
        else .invalid 1 :: scan (b :: r₁)
    else .invalid 1 :: scan r

/-- Why an octet list is no text. -/
inductive Fault
  /-- The `width` octets from `index` on begin no character. -/
  | invalid (width index : Nat)
  /-- The octets end inside the character that begins at `index`. -/
  | truncated (index : Nat)
  deriving DecidableEq

/-- The wording of a fault. -/
def Fault.message : Fault → String
  | .invalid width index =>
    "invalid utf-8 sequence of " ++ toString width ++ " bytes from index " ++ toString index
  | .truncated index => "incomplete utf-8 byte sequence from index " ++ toString index

/-- The characters of the pieces up to the first bad one, which is reported with
the octets before it counted from `index`. -/
def collect (index : Nat) : List Piece → Except Fault (List Char)
  | [] => .ok []
  | .char c w :: rest => (collect (index + w) rest).map (c :: ·)
  | .invalid w :: _ => .error (.invalid w index)
  | .truncated _ :: _ => .error (.truncated index)

/-- The text an octet list writes, or its first fault. -/
def decode (bytes : Octets) : Except Fault String :=
  (collect 0 (scan bytes)).map String.ofList

/-- The character that stands for a piece in a lossy reading. -/
def Piece.lossy : Piece → Char
  | .char c _ => c
  | .invalid _ => Char.ofNat 0xFFFD
  | .truncated _ => Char.ofNat 0xFFFD

/-- The text an octet list writes, with U+FFFD for every bad piece. -/
def decodeLossy (bytes : Octets) : String :=
  String.ofList ((scan bytes).map Piece.lossy)

end Utf8

end InstallMatrix.Text
