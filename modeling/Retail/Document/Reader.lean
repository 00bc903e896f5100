import Retail.Document.Basic
import Retail.Text.Blank
import Retail.Text.Hex

/-!
# Documents in writing

Documents are written in flow form: lists in brackets, maps in braces, texts and the names of fields
in double quotes, and other plain values as they are. Blanks may stand around everything.

## Main definitions

* `Document.quoted?`: a quoted text
* `Document.plain?`: a plain value
* `Document.ofText?`: the reader
-/

namespace Retail

namespace Document

/-- What follows the blanks. -/
def skipBlank (chars : List Char) : List Char := chars.dropWhile Text.isBlank

/-- The character with a number of four hexadecimal digits. -/
def charOfHex? (digits : List Char) : Option Char := do
  let value ← Text.hexNumber? digits
  if value.isValidChar then some (Char.ofNat value) else none

/-- The character that a letter stands for behind a backslash. -/
def escaped? : Char → Option Char
  | '"' => some '"'
  | '\\' => some '\\'
  | '/' => some '/'
  | 'b' => some '\x08'
  | 'f' => some '\x0c'
  | 'n' => some '\n'
  | 'r' => some '\r'
  | 't' => some '\t'
  | _ => none

/-- Reads a text up to its closing quote, given the characters read so far from the last one on. -/
def quoted? (read : List Char) : List Char → Option (String × List Char)
  | [] => none
  | '"' :: rest => some (String.ofList read.reverse, rest)
  | '\\' :: 'u' :: a :: b :: c :: d :: rest => do quoted? ((← charOfHex? [a, b, c, d]) :: read) rest
  | '\\' :: c :: rest => do quoted? ((← escaped? c) :: read) rest
  | c :: rest => quoted? (c :: read) rest

/-- The characters of numbers. -/
def isNumberChar (c : Char) : Bool := c.isDigit || ['-', '+', '.', 'e', 'E'].contains c

/-- The characters that end a plain value. -/
def endsPlain (c : Char) : Bool := Text.isBlank c || [',', ']', '\x7d'].contains c

/-- Reads a value that is not quoted. -/
def plain? (chars : List Char) : Option (Document × List Char) :=
  let word := chars.takeWhile (!endsPlain ·)
  let rest := chars.dropWhile (!endsPlain ·)
  match String.ofList word with
  | "null" => some (.null, rest)
  | "true" => some (.boolean true, rest)
  | "false" => some (.boolean false, rest)
  | written =>
    if word.any Char.isDigit && word.all isNumberChar then some (.number written, rest) else none

mutual

/-- Reads a value; the first argument bounds the number of steps. -/
def value? : Nat → List Char → Option (Document × List Char)
  | 0, _ => none
  | fuel + 1, chars =>
    match skipBlank chars with
    | '"' :: rest => (quoted? [] rest).map fun (value, rest) => (.text value, rest)
    | '[' :: rest =>
      match skipBlank rest with
      | ']' :: rest => some (.list [], rest)
      | rest => (items? fuel rest).map fun (items, rest) => (.list items, rest)
    | '\x7b' :: rest =>
      match skipBlank rest with
      | '\x7d' :: rest => some (.map [], rest)
      | rest => (entries? fuel rest).map fun (fields, rest) => (.map fields, rest)
    | rest => plain? rest

/-- Reads the items of a list and the bracket behind them. -/
def items? : Nat → List Char → Option (List Document × List Char)
  | 0, _ => none
  | fuel + 1, chars => do
    let (item, rest) ← value? fuel chars
    match skipBlank rest with
    | ',' :: rest =>
      let (items, rest) ← items? fuel rest
      some (item :: items, rest)
    | ']' :: rest => some ([item], rest)
    | _ => none

/-- Reads the fields of a map and the brace behind them. -/
def entries? : Nat → List Char → Option (Fields × List Char)
  | 0, _ => none
  | fuel + 1, chars =>
    match skipBlank chars with
    | '"' :: rest => do
      let (name, rest) ← quoted? [] rest
      match skipBlank rest with
      | ':' :: rest =>
        let (value, rest) ← value? fuel rest
        match skipBlank rest with
        | ',' :: rest =>
          let (fields, rest) ← entries? fuel rest
          some ((name, value) :: fields, rest)
        | '\x7d' :: rest => some ([(name, value)], rest)
        | _ => none
      | _ => none
    | _ => none

end

/-- Reads a document. Each step but one in two takes a character, which bounds their number. -/
def ofText? (text : String) : Option Document := do
  let chars := text.toList
  let (document, rest) ← value? (2 * chars.length + 2) chars
  if (skipBlank rest).isEmpty then some document else none

end Document

end Retail
