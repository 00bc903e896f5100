import Retail.Text.Columns

/-!
# Ligatures

In some scripts letters that follow each other are drawn as one. A line is read from its end, so a
ligature is known by its last letter, and the letters before it are joined to that one.

## Main definitions

* `LigatureLetter`: the letters that may end a ligature
* `LigatureEnd`: the end of a ligature that has been read
* `LigatureEnd.join?`: the ligature with the character before it
-/

namespace Retail

namespace Text

/-- The character that joins the letters around it. -/
def joiner : Char := '\u200D'

/-- A letter with which a ligature may end. -/
inductive LigatureLetter where
  /-- Arabic alef, drawn on the lam before it. -/
  | alef
  /-- Hebrew lamed, drawn on the alef before it. -/
  | lamed
  /-- Buginese ya, drawn on the vowel and the letter before it. -/
  | ya
  /-- Buginese ya with its vowel. -/
  | vowelYa
  /-- A Tifinagh consonant, drawn on the consonant before it. -/
  | consonant
  /-- A Tifinagh consonant with the sign that binds it to the one before it. -/
  | boundConsonant
  /-- The second part of a Lisu tone. -/
  | toneEnd
  /-- Old Turkic i, drawn on the letter before it. -/
  | orkhonI
  /-- A Khmer letter, drawn below the one before it when a coeng stands between them. -/
  | subscript
  deriving DecidableEq, Repr

/-! ## Classes of letters -/

/-- The forms of the Arabic alef that are drawn on a lam. -/
def isAlef : Char → Bool :=
  inRanges [(0x622, 0x623), (0x625, 0x625), (0x627, 0x627), (0x671, 0x673), (0x675, 0x675),
    (0x773, 0x774), (0x870, 0x882)]

/-- The forms of the Arabic lam on which an alef is drawn. -/
def isLam : Char → Bool :=
  inRanges [(0x644, 0x644), (0x6B5, 0x6B8), (0x76A, 0x76A), (0x8A6, 0x8A6), (0x8C7, 0x8C7)]

/-- The consonants of Tifinagh, which may be bound to each other. -/
def isTifinaghConsonant : Char → Bool := inRanges [(0x2D31, 0x2D65), (0x2D6F, 0x2D6F)]

/-- The first parts of Lisu tones. -/
def isToneStart : Char → Bool := inRanges [(0xA4F8, 0xA4FB)]

/-- The Khmer letters that are drawn below others behind a coeng. -/
def isSubscript : Char → Bool :=
  inRanges [(0x1780, 0x1782), (0x1784, 0x1787), (0x1789, 0x178C), (0x178E, 0x1793),
    (0x1795, 0x1798), (0x179B, 0x179D), (0x17A0, 0x17A0), (0x17A2, 0x17A2), (0x17A7, 0x17A7),
    (0x17AB, 0x17AC), (0x17AF, 0x17AF)]

/-- The letter with which a ligature may end, if the character is one. -/
def LigatureLetter.ofChar? (c : Char) : Option LigatureLetter :=
  if isAlef c then some .alef
  else if c == '\u05DC' then some .lamed
  else if c == '\u1A10' then some .ya
  else if isTifinaghConsonant c then some .consonant
  else if inRanges [(0xA4FC, 0xA4FD)] c then some .toneEnd
  else if c.toNat == 0x10C03 then some .orkhonI
  else if isSubscript c then some .subscript
  else none

/-! ## Marks between the letters -/

/-- The marks that are not drawn by default; they may stand anywhere in a ligature. -/
def isIgnoredMark : Char → Bool :=
  inRanges [(0x34F, 0x34F), (0x17B4, 0x17B5), (0x180B, 0x180D), (0x180F, 0x180F), (0xFE00, 0xFE0F),
    (0xE0100, 0xE01EF)]

/-- The characters without a column that are no marks on the letter before them. -/
def opaqueRanges : List (Nat × Nat) :=
  [(0x605, 0x605), (0x890, 0x891), (0x8E2, 0x8E2), (0x9BE, 0x9BE), (0x9D7, 0x9D7), (0xB3E, 0xB3E),
    (0xB57, 0xB57), (0xBBE, 0xBBE), (0xBD7, 0xBD7), (0xCC0, 0xCC0), (0xCC2, 0xCC2), (0xCC7, 0xCC8),
    (0xCCA, 0xCCB), (0xCD5, 0xCD6), (0xD3E, 0xD3E), (0xD4E, 0xD4E), (0xD57, 0xD57), (0xDCF, 0xDCF),
    (0xDDF, 0xDDF), (0x1160, 0x11FF), (0x1715, 0x1715), (0x1734, 0x1734), (0x180E, 0x180E),
    (0x1B35, 0x1B35), (0x1B3B, 0x1B3B), (0x1B3D, 0x1B3D), (0x1B43, 0x1B44), (0x1BAA, 0x1BAA),
    (0x1BF2, 0x1BF3), (0x200C, 0x200D), (0x2065, 0x2069), (0x302E, 0x302F), (0x3164, 0x3164),
    (0xA8FA, 0xA8FA), (0xA953, 0xA953), (0xA9C0, 0xA9C0), (0xD7B0, 0xD7C6), (0xD7CB, 0xD7FB),
    (0xFFA0, 0xFFA0), (0xFFF0, 0xFFF8), (0x111C0, 0x111C0), (0x111C2, 0x111C3), (0x11235, 0x11235),
    (0x1133E, 0x1133E), (0x1134D, 0x1134D), (0x11357, 0x11357), (0x113B8, 0x113B8),
    (0x113C2, 0x113C2), (0x113C5, 0x113C5), (0x113C7, 0x113C9), (0x113CF, 0x113CF),
    (0x113D1, 0x113D1), (0x114B0, 0x114B0), (0x114BD, 0x114BD), (0x115AF, 0x115AF),
    (0x116B6, 0x116B6), (0x11930, 0x11930), (0x1193D, 0x1193D), (0x1193F, 0x1193F),
    (0x11941, 0x11941), (0x11A84, 0x11A89), (0x11D46, 0x11D46), (0x11F02, 0x11F02),
    (0x11F41, 0x11F41), (0x16FF0, 0x16FF1), (0x1D165, 0x1D166), (0x1D16D, 0x1D172),
    (0xE0000, 0xE0000), (0xE0002, 0xE001F), (0xE0080, 0xE00FF), (0xE01F0, 0xE0FFF)]

/-- Whether lam and alef are joined across the character. -/
def isTransparent (c : Char) : Bool := columns c == 0 && !inRanges opaqueRanges c

/-! ## Joining -/

/-- The end of a ligature: its last letter, and whether a joiner stands before it. -/
structure LigatureEnd where
  letter : LigatureLetter
  joined : Bool
  deriving DecidableEq, Repr

namespace LigatureEnd

/-- The columns that a character adds to the letter behind it, and the end that the two may be of a
longer ligature. -/
def joinLetter? (ending : LigatureEnd) (c : Char) : Option (Int × Option LigatureEnd) :=
  match ending.letter with
  | .alef => if isLam c then some (0, none) else none
  | .lamed => if ending.joined && c == '\u05D0' then some (0, none) else none
  | .ya => if ending.joined && c == '\u1A17' then some (0, some ⟨.vowelYa, false⟩) else none
  | .vowelYa => if c == '\u1A15' then some (0, none) else none
  | .consonant =>
    if c == '\u2D7F' then some (1, some ⟨.boundConsonant, false⟩)
    else if ending.joined && isTifinaghConsonant c then some (0, none)
    else none
  -- The sign that binds them took a column; there is one for the three of them.
  | .boundConsonant => if isTifinaghConsonant c then some (-1, none) else none
  | .toneEnd => if isToneStart c then some (0, none) else none
  | .orkhonI => if ending.joined && c.toNat == 0x10C32 then some (0, none) else none
  -- The letter below takes no column.
  | .subscript => if c == '\u17D2' then some (-1, none) else none

/-- Like `joinLetter?`, with the marks and joiners that may stand between the letters. -/
def join? (ending : LigatureEnd) (c : Char) : Option (Int × Option LigatureEnd) :=
  if ending.letter == .alef then
    (ending.joinLetter? c).or (if isTransparent c then some (0, some ending) else none)
  else if c == joiner then some (0, some { ending with joined := true })
  else if isIgnoredMark c then some (0, some ending)
  else ending.joinLetter? c

end LigatureEnd

end Text

end Retail
