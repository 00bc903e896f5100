import Retail.Text.Emoji
import Retail.Text.Ligature

/-!
# Width on a terminal

How many columns of a terminal a line takes. The columns of a character depend on what stands behind
it: a selector asks for another style of it, and some rows of characters are drawn as one emoji or
as one letter. So a line is read from its end.

## Main definitions

* `Selector`: the styles that can be asked for
* `Sequel`: what stands behind a character
* `Sequel.before`: the columns of a character
* `width`: the width of a line
-/

namespace Retail

namespace Text

/-- What a variation selector asks of the character before it. -/
inductive Selector where
  | text
  | emoji
  /-- A quotation mark of two columns. -/
  | wideQuote
  deriving DecidableEq, Repr

/-- What the character asks for, if it is a selector. -/
def Selector.ofChar? (c : Char) : Option Selector :=
  if c == '\uFE0E' then some .text
  else if c == '\uFE0F' then some .emoji
  else if c == '\uFE01' then some .wideQuote
  else none

/-- Whether the character is a curved quotation mark, which may be asked for in two columns. -/
def isQuote (c : Char) : Bool := "‘’“”".toList.contains c

/-! ## What stands behind a character -/

/-- What stands behind a character, as far as the columns of the character depend on it. -/
inductive Sequel where
  | other
  | selector (s : Selector)
  /-- The end of a ligature, with the selector that stands before it. -/
  | ligature (ending : LigatureEnd) (s : Option Selector)
  /-- One of the Kirat Rai vowels that are made of others. -/
  | vowelE
  | vowelAi
  /-- An emoji, alone or with what belongs to it. -/
  | emoji
  | tone
  /-- Letters of flags, and whether they are joined to an emoji behind them. -/
  | letters (isJoined : Bool) (count : Nat)
  /-- A joiner with the emoji behind it. -/
  | joined
  /-- The frame of a key that is joined to an emoji behind it. -/
  | joinedKey
  /-- A selector before `joined` or `joinedKey`, which asks for an emoji. -/
  | joinedStyle
  /-- The tags that end a flag which is joined to an emoji behind it. -/
  | tags (letterCount digitCount : Nat)
  deriving DecidableEq, Repr

namespace Sequel

/-- What a character is when nothing behind it matters. -/
def ofChar (c : Char) : Sequel :=
  match LigatureLetter.ofChar? c with
  | some letter => .ligature ⟨letter, false⟩ none
  | none =>
    if isRegional c then .letters false 1
    else if isTone c then .tone
    else if isEmoji c then .emoji
    else if c.toNat == 0x16D67 then .vowelE
    else if c.toNat == 0x16D68 then .vowelAi
    else .other

/-- A selector and what stands behind it. Ligatures are read across a selector. -/
def select (next : Sequel) (s : Selector) : Sequel :=
  match next with
  | .ligature ending _ => .ligature ending (some s)
  | .joined | .joinedKey => if s == .emoji then .joinedStyle else .selector s
  | _ => .selector s

/-- What stands behind a selector that does not apply to the character before it. -/
def unselected : Sequel → Sequel
  | .selector _ | .joinedStyle => .other
  | .ligature ending _ => .ligature ending none
  | next => next

/-! ## Columns -/

/-- The columns of a character to which the selector behind it applies. -/
def styled? (next : Sequel) (c : Char) : Option (Int × Sequel) :=
  match next with
  | .joinedStyle => if isStyled c then some (0, .emoji) else none
  | .selector .emoji | .ligature _ (some .emoji) => if isStyled c then some (2, .emoji) else none
  | .selector .text | .ligature _ (some .text) => if isTextStyled c then some (1, .other) else none
  | .selector .wideQuote | .ligature _ (some .wideQuote) =>
    if isQuote c then some (2, .other) else none
  | _ => none

/-- The columns that a character adds to the tags behind it: three digits and at most four letters,
or three to six letters. The flag stands before them. -/
def joinTag? (letterCount digitCount : Nat) (c : Char) : Option (Int × Sequel) :=
  let complete := if digitCount == 0 then 3 ≤ letterCount else digitCount == 3
  if isTagLetter c && digitCount == 0 && letterCount < 6 then some (0, .tags (letterCount + 1) 0)
  else if isTagDigit c && letterCount ≤ 4 && digitCount < 3 then
    some (0, .tags letterCount (digitCount + 1))
  else if c.toNat == 0x1F3F4 && complete then some (0, .emoji)
  else none

/-- The columns that a character adds to what stands behind it, if the two are drawn as one. -/
def join? (next : Sequel) (c : Char) : Option (Int × Sequel) :=
  match next with
  | .ligature ending _ =>
    (ending.join? c).map fun (added, ending) => (added, ending.elim .other (.ligature · none))
  | .vowelE =>
    if c.toNat == 0x16D63 || c.toNat == 0x16D69 then some (0, .other)
    else if c.toNat == 0x16D67 then some (0, .vowelAi)
    else if c.toNat == 0x16D68 then some (1, .vowelE)
    else none
  | .vowelAi => if c.toNat == 0x16D63 then some (0, .other) else none
  | .emoji => if c == joiner then some (0, .joined) else none
  | .tone =>
    if takesTone c then some (0, .emoji) else if c == joiner then some (0, .joined) else none
  | .letters isJoined count =>
    if isRegional c then
      -- Of an even number the last pair is joined; of an odd number the last letter is alone, and
      -- nothing is joined.
      some (if !isJoined then 1 else if count % 2 == 1 then -1 else 3,
        .letters isJoined (count + 1))
    else if 2 ≤ count && c == joiner then some (0, .joined)
    else none
  | .joined =>
    if c == '\u20E3' then some (0, .joinedKey)
    else if isRegional c then some (1, .letters true 1)
    else if isTone c then some (0, .tone)
    else if c.toNat == 0xE007F then some (0, .tags 0 0)
    else if isEmoji c then some (0, .emoji)
    else none
  | .tags letterCount digitCount => joinTag? letterCount digitCount c
  | _ => none

/-- The columns of a character before `next`, and what the two are for the character before them. -/
def before (next : Sequel) (c : Char) : Int × Sequel :=
  (next.styled? c).getD
    (if c.toNat ≤ 0xA0 then (1, .other)
    else match Selector.ofChar? c with
      | some s => (0, next.unselected.select s)
      | none => (next.unselected.join? c).getD (columns c, .ofChar c))

end Sequel

/-- The columns of a line. -/
def width (line : List Char) : Nat :=
  let read (c : Char) : Int × Sequel → Int × Sequel := fun (total, next) =>
    let (added, sequel) := next.before c
    (total + added, sequel)
  (line.foldr read (0, .other)).1.toNat

end Text

end Retail
