import InstallMatrix.Text.Basic
import InstallMatrix.Text.Mark
import InstallMatrix.Text.Pictograph

/-!
# `InstallMatrix.Text.Width`: how many columns a text takes

Terminals give most characters one column, East Asian wide characters and
pictographs two, and none to marks and joiners. Some characters are drawn together
with what follows them: flags, pictographs put together from several, a few pairs
of letters. A text is therefore measured from its end, and what has been seen to
the right of a character is kept as an `Ahead`. Tables are aligned by columns, so
they need this count instead of the number of characters.

Definitions: `charWidth`, `Ahead`, `Ahead.step`, `width`, `padEnd`.
-/

set_option autoImplicit false

namespace InstallMatrix.Text

/-! ### Single characters -/

/-- Characters without a column of their own that are neither grapheme extenders
nor ignorable: marks over numbers, a caret, signs made of two marks, letters
written over the next one, and the inner letters of Hangul syllables. -/
def overlaid : CharacterSet :=
  [ (0x0605, 0x0605), (0x070F, 0x070F), (0x0890, 0x0891), (0x08E2, 0x08E2), (0x0CC0, 0x0CC0),
    (0x0CC7, 0x0CC8), (0x0CCA, 0x0CCB), (0x0D4E, 0x0D4E), (0x1160, 0x11FF), (0x1B3B, 0x1B3B),
    (0x1B3D, 0x1B3D), (0x1B43, 0x1B43), (0xA8FA, 0xA8FA), (0xD7B0, 0xD7C6), (0xD7CB, 0xD7FB),
    (0x111C2, 0x111C3), (0x1193F, 0x1193F), (0x11941, 0x11941), (0x11A3A, 0x11A3A),
    (0x11A84, 0x11A89), (0x11D46, 0x11D46), (0x11F02, 0x11F02) ]

/-- Marks and invisible characters that keep a column: the filler that begins a
Hangul syllable, and the joiner of Tifinagh consonants, drawn where nothing can be
joined. -/
def visibleMarks : CharacterSet := [(0x115F, 0x115F), (0x2D7F, 0x2D7F)]

/-- Has the character no column of its own. -/
def isZeroWidth (c : Char) : Bool :=
  (graphemeExtenders.contains c || ignorables.contains c || overlaid.contains c)
    && !visibleMarks.contains c

/-- The characters with the property `East_Asian_Width` wide or full. -/
def wide : CharacterSet :=
  [ (0x1100, 0x115F), (0x231A, 0x231B), (0x2329, 0x232A), (0x23E9, 0x23EC), (0x23F0, 0x23F0),
    (0x23F3, 0x23F3), (0x25FD, 0x25FE), (0x2614, 0x2615), (0x2648, 0x2653), (0x267F, 0x267F),
    (0x2693, 0x2693), (0x26A1, 0x26A1), (0x26AA, 0x26AB), (0x26BD, 0x26BE), (0x26C4, 0x26C5),
    (0x26CE, 0x26CE), (0x26D4, 0x26D4), (0x26EA, 0x26EA), (0x26F2, 0x26F3), (0x26F5, 0x26F5),
    (0x26FA, 0x26FA), (0x26FD, 0x26FD), (0x2705, 0x2705), (0x270A, 0x270B), (0x2728, 0x2728),
    (0x274C, 0x274C), (0x274E, 0x274E), (0x2753, 0x2755), (0x2757, 0x2757), (0x2795, 0x2797),
    (0x27B0, 0x27B0), (0x27BF, 0x27BF), (0x2B1B, 0x2B1C), (0x2B50, 0x2B50), (0x2B55, 0x2B55),
    (0x2E80, 0x2E99), (0x2E9B, 0x2EF3), (0x2F00, 0x2FD5), (0x2FF0, 0x303E), (0x3041, 0x3096),
    (0x3099, 0x30FF), (0x3105, 0x312F), (0x3131, 0x318E), (0x3190, 0x31E3), (0x31EF, 0x321E),
    (0x3220, 0x3247), (0x3250, 0x4DBF), (0x4E00, 0xA48C), (0xA490, 0xA4C6), (0xA960, 0xA97C),
    (0xAC00, 0xD7A3), (0xF900, 0xFAFF), (0xFE10, 0xFE19), (0xFE30, 0xFE52), (0xFE54, 0xFE66),
    (0xFE68, 0xFE6B), (0xFF01, 0xFF60), (0xFFE0, 0xFFE6), (0x16FE0, 0x16FE4), (0x16FF0, 0x16FF1),
    (0x17000, 0x187F7), (0x18800, 0x18CD5), (0x18D00, 0x18D08), (0x1AFF0, 0x1AFF3),
    (0x1AFF5, 0x1AFFB), (0x1AFFD, 0x1AFFE), (0x1B000, 0x1B122), (0x1B132, 0x1B132),
    (0x1B150, 0x1B152), (0x1B155, 0x1B155), (0x1B164, 0x1B167), (0x1B170, 0x1B2FB),
    (0x1F004, 0x1F004), (0x1F0CF, 0x1F0CF), (0x1F18E, 0x1F18E), (0x1F191, 0x1F19A),
    (0x1F200, 0x1F202), (0x1F210, 0x1F23B), (0x1F240, 0x1F248), (0x1F250, 0x1F251),
    (0x1F260, 0x1F265), (0x1F300, 0x1F320), (0x1F32D, 0x1F335), (0x1F337, 0x1F37C),
    (0x1F37E, 0x1F393), (0x1F3A0, 0x1F3CA), (0x1F3CF, 0x1F3D3), (0x1F3E0, 0x1F3F0),
    (0x1F3F4, 0x1F3F4), (0x1F3F8, 0x1F43E), (0x1F440, 0x1F440), (0x1F442, 0x1F4FC),
    (0x1F4FF, 0x1F53D), (0x1F54B, 0x1F54E), (0x1F550, 0x1F567), (0x1F57A, 0x1F57A),
    (0x1F595, 0x1F596), (0x1F5A4, 0x1F5A4), (0x1F5FB, 0x1F64F), (0x1F680, 0x1F6C5),
    (0x1F6CC, 0x1F6CC), (0x1F6D0, 0x1F6D2), (0x1F6D5, 0x1F6D7), (0x1F6DC, 0x1F6DF),
    (0x1F6EB, 0x1F6EC), (0x1F6F4, 0x1F6FC), (0x1F7E0, 0x1F7EB), (0x1F7F0, 0x1F7F0),
    (0x1F90C, 0x1F93A), (0x1F93C, 0x1F945), (0x1F947, 0x1F9FF), (0x1FA70, 0x1FA7C),
    (0x1FA80, 0x1FA88), (0x1FA90, 0x1FABD), (0x1FABF, 0x1FAC5), (0x1FACE, 0x1FADB),
    (0x1FAE0, 0x1FAE8), (0x1FAF0, 0x1FAF8), (0x20000, 0x2FFFD), (0x30000, 0x3FFFD) ]

/-- The columns a character takes by itself. A control character takes one. -/
def charWidth (c : Char) : Nat :=
  let n := c.toNat
  if n ≤ 0xA0 then 1
  else if isZeroWidth c then 0
  else if n = 0x17D8 then 3
  else if n = 0x17A4 || wide.contains c then 2
  else 1

/-! ### What stands to the right -/

/-- Letters that may be drawn together with a letter before them. -/
inductive Ligature
  /-- A Hebrew lamed. -/
  | lamed
  /-- A Khmer letter that can be written below another. -/
  | subjoined
  /-- A Buginese ya. -/
  | ya
  /-- A Buginese vowel sign i, a joiner and a ya. -/
  | vowelYa
  /-- A Tifinagh consonant. -/
  | consonant
  /-- A Tifinagh consonant with the joiner of its script before it. -/
  | joinedConsonant
  /-- The second letter of a Lisu tone. -/
  | tone
  /-- An Old Turkic orkhon i. -/
  | orkhon
  deriving DecidableEq

/-- The sequence that begins to the right of a character. -/
inductive Ahead.Sequence
  /-- Nothing that the character before it could be part of. -/
  | none
  | lineFeed
  | skinTone
  /-- One regional indicator, or several. -/
  | indicators (several : Bool)
  | pictograph
  /-- A joiner and a pictograph. -/
  | joined
  /-- A key, a joiner and a pictograph. -/
  | joinedKeycap
  /-- The first of the regional indicators before a joiner and a pictograph. -/
  | joinedIndicator
  /-- More of them, an odd number or an even one. -/
  | joinedIndicators (odd : Bool)
  /-- The tags of so many letters, after them digits, before a joiner and a
  pictograph; tags are met from the last to the first. -/
  | tags (letters digits : Nat)
  /-- An Arabic alef. -/
  | alef
  /-- A letter, and whether a joiner stands before it. -/
  | letter (l : Ligature) (joined : Bool)
  deriving DecidableEq

/-- What stands to the right of a character: a sequence, and a selector before it
that asks for a plain symbol or for a pictograph. -/
structure Ahead where
  sequence : Ahead.Sequence
  /-- A selector for pictographs stands first. -/
  asPictograph : Bool
  /-- A selector for plain symbols stands first. -/
  asSymbol : Bool
  deriving DecidableEq

namespace Ahead

/-- A sequence with no selector before it. -/
def of (s : Sequence) : Ahead := ⟨s, false, false⟩

/-- Nothing to be seen. -/
def nothing : Ahead := of .none

/-- Is this a ligature, which selectors do not break. -/
def Sequence.isLigature : Sequence → Bool
  | .alef | .letter _ _ => true
  | _ => false

/-- Does a joiner begin the sequence. -/
def Sequence.isJoined : Sequence → Bool
  | .joined | .joinedKeycap => true
  | _ => false

/-- What is left of a sequence when a selector before it had no effect. -/
def Sequence.unselected (s : Sequence) : Sequence := if s.isLigature then s else .none

/-- The sequences that a single character begins. -/
def Sequence.ofChar (c : Char) : Sequence :=
  let n := c.toNat
  if CharacterSet.contains [(0x622, 0x623), (0x625, 0x625), (0x627, 0x627), (0x671, 0x673),
      (0x675, 0x675), (0x773, 0x774), (0x870, 0x882)] c then .alef
  else if n = 0x5DC then .letter .lamed false
  else if CharacterSet.contains [(0x1780, 0x1782), (0x1784, 0x1787), (0x1789, 0x178C),
      (0x178E, 0x1793), (0x1795, 0x1798), (0x179B, 0x179D), (0x17A0, 0x17A0), (0x17A2, 0x17A2),
      (0x17A7, 0x17A7), (0x17AB, 0x17AC), (0x17AF, 0x17AF)] c then .letter .subjoined false
  else if n = 0x1A10 then .letter .ya false
  else if (0x2D31 ≤ n && n ≤ 0x2D65) || n = 0x2D6F then .letter .consonant false
  else if n = 0xA4FC || n = 0xA4FD then .letter .tone false
  else if n = 0x10C03 then .letter .orkhon false
  else if isRegionalIndicator c then .indicators false
  else if isSkinTone c then .skinTone
  else if pictographs.contains c then .pictograph
  else .none

/-- A character by itself: its columns, and what the character before it sees. -/
def alone (c : Char) : Int × Ahead :=
  if c = pictographSelector then (0, ⟨.none, true, false⟩)
  else if c = symbolSelector then (0, ⟨.none, false, true⟩)
  else (charWidth c, of (Sequence.ofChar c))

/-- Marks that do not come between the letters of a ligature. -/
def isTransparent (c : Char) : Bool :=
  CharacterSet.contains
    [ (0x034F, 0x034F), (0x17B4, 0x17B5), (0x180B, 0x180D), (0x180F, 0x180F), (0x200D, 0x200D),
      (0xFE00, 0xFE0F), (0xE0100, 0xE01EF) ] c

/-- Characters without a column that do come between the letters of an Arabic
word. -/
def interrupting : CharacterSet :=
  [ (0x605, 0x605), (0x890, 0x891), (0x8E2, 0x8E2), (0x9BE, 0x9BE), (0x9D7, 0x9D7),
    (0xB3E, 0xB3E), (0xB57, 0xB57), (0xBBE, 0xBBE), (0xBD7, 0xBD7), (0xCC0, 0xCC0),
    (0xCC2, 0xCC2), (0xCC7, 0xCC8), (0xCCA, 0xCCB), (0xCD5, 0xCD6), (0xD3E, 0xD3E),
    (0xD4E, 0xD4E), (0xD57, 0xD57), (0xDCF, 0xDCF), (0xDDF, 0xDDF), (0x1160, 0x11FF),
    (0x180E, 0x180E), (0x1B35, 0x1B35), (0x1B3B, 0x1B3B), (0x1B3D, 0x1B3D), (0x1B43, 0x1B43),
    (0x200C, 0x200D), (0x2065, 0x2069), (0x302E, 0x302F), (0x3164, 0x3164), (0xA8FA, 0xA8FA),
    (0xD7B0, 0xD7C6), (0xD7CB, 0xD7FB), (0xFF9E, 0xFFA0), (0xFFF0, 0xFFF8), (0x111C2, 0x111C3),
    (0x1133E, 0x1133E), (0x11357, 0x11357), (0x114B0, 0x114B0), (0x114BD, 0x114BD),
    (0x115AF, 0x115AF), (0x11930, 0x11930), (0x1193F, 0x1193F), (0x11941, 0x11941),
    (0x11A3A, 0x11A3A), (0x11A84, 0x11A89), (0x11D46, 0x11D46), (0x11F02, 0x11F02),
    (0x1D165, 0x1D165), (0x1D16E, 0x1D172), (0xE0000, 0xE0000), (0xE0002, 0xE001F),
    (0xE0080, 0xE00FF), (0xE01F0, 0xE0FFF) ]

/-- The columns a character adds to the sequence on its right if it is drawn as a
part of it, and what the character before it sees. -/
def joins? (c : Char) : Sequence → Option (Int × Sequence)
  | .alef =>
    if CharacterSet.contains [(0x644, 0x644), (0x6B5, 0x6B8), (0x76A, 0x76A), (0x8A6, 0x8A6),
        (0x8C7, 0x8C7)] c then some (0, .none)
    else if isZeroWidth c && !interrupting.contains c then some (0, .alef)
    else none
  | .letter l j =>
    let n := c.toNat
    if c = joiner then some (0, .letter l true)
    else if isTransparent c then some (0, .letter l j)
    else match l with
      | .lamed => if j && n = 0x5D0 then some (0, .none) else none
      | .subjoined => if n = 0x17D2 then some (-1, .none) else none
      | .ya => if j && n = 0x1A17 then some (0, .letter .vowelYa false) else none
      | .vowelYa => if n = 0x1A15 then some (0, .none) else none
      | .consonant =>
        if n = 0x2D7F then some (1, .letter .joinedConsonant false)
        else if j && Sequence.ofChar c = .letter .consonant false then some (0, .none)
        else none
      | .joinedConsonant =>
        if Sequence.ofChar c = .letter .consonant false then some (-1, .none) else none
      | .tone => if 0xA4F8 ≤ n && n ≤ 0xA4FB then some (0, .none) else none
      | .orkhon => if j && n = 0x10C32 then some (0, .none) else none
  | .skinTone =>
    if skinToneBases.contains c then some (0, .pictograph)
    else if c = joiner then some (0, .joined) else none
  | .indicators several =>
    if isRegionalIndicator c then some (1, .indicators true)
    else if several && c = joiner then some (0, .joined) else none
  | .pictograph => if c = joiner then some (0, .joined) else none
  | .joined =>
    if c = keycap then some (0, .joinedKeycap)
    else if isRegionalIndicator c then some (1, .joinedIndicator)
    else if isSkinTone c then some (0, .skinTone)
    else if c = tagEnd then some (0, .tags 0 0)
    else if pictographs.contains c then some (0, .pictograph)
    else none
  | .joinedIndicator =>
    if isRegionalIndicator c then some (-1, .joinedIndicators false) else none
  | .joinedIndicators odd =>
    if isRegionalIndicator c then some (if odd then -1 else 3, .joinedIndicators !odd)
    else if c = joiner then some (0, .joined) else none
  | .tags letters digits =>
    if isLetterTag c && digits = 0 && letters < 6 then some (0, .tags (letters + 1) 0)
    else if isDigitTag c && letters ≤ 4 && digits < 3 then some (0, .tags letters (digits + 1))
    else if c = taggedFlag && (digits = 3 || (digits = 0 && 3 ≤ letters)) then
      some (0, .pictograph)
    else none
  | _ => none

/-- The columns a character adds to what stands to its right, and what the
character before it sees. -/
def step (c : Char) (ahead : Ahead) : Int × Ahead :=
  if ahead.asPictograph && pictographVariants.contains c then
    (if ahead.sequence.isJoined then 0 else 2, of .pictograph)
  else
    let ahead :=
      if ahead.asPictograph then ⟨ahead.sequence.unselected, false, ahead.asSymbol⟩ else ahead
    if c.toNat ≤ 0xA0 then
      -- The text is read from its end, so a line feed comes before the return it belongs to.
      if c = '\n' then (1, of .lineFeed)
      else if c = '\r' && ahead.sequence = .lineFeed then (0, nothing)
      else (1, nothing)
    else if ahead = nothing then alone c
    else if c = pictographSelector then
      let kept := ahead.sequence.isLigature || ahead.sequence.isJoined
      (0, ⟨if kept then ahead.sequence else .none, true, false⟩)
    else if c = symbolSelector then (0, ⟨ahead.sequence.unselected, false, true⟩)
    else if ahead.asSymbol && symbolVariants.contains c then (1, nothing)
    else
      let sequence := if ahead.asSymbol then ahead.sequence.unselected else ahead.sequence
      match joins? c sequence with
      | some (columns, s) => (columns, of s)
      | none => alone c

end Ahead

/-! ### Texts -/

/-- The columns a text takes. -/
def width (s : String) : Nat :=
  (s.toList.foldr
    (fun c (seen : Int × Ahead) =>
      let (columns, ahead) := Ahead.step c seen.2
      (seen.1 + columns, ahead))
    (0, Ahead.nothing)).1.toNat

/-- A text followed by blanks up to a number of columns. -/
def padEnd (columns : Nat) (s : String) : String :=
  s ++ repeated (columns - width s) " "

end InstallMatrix.Text
