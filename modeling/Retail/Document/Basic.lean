/-!
# Documents

A document is a tree of lists and maps over plain values. A manifest is read from a document field
by field: fields that the manifest does not know are passed over, and a value of the wrong form
makes the whole document malformed.

## Main definitions

* `Document`: a tree of values
* `Document.string?`, `Document.boolean?`, `Document.natural?`: plain values
* `Document.listOf?`, `Document.mapOf?`, `Document.fields?`: lists and maps
* `Fields.required?`, `Fields.optional?`, `Fields.orElse?`: the fields of a map
-/

namespace Retail

/-- A tree of values. A number is kept as it is written. -/
inductive Document where
  | null
  | boolean (value : Bool)
  | number (written : String)
  | text (value : String)
  | list (items : List Document)
  | map (fields : List (String × Document))

/-- The fields of a map. -/
abbrev Fields := List (String × Document)

namespace Document

instance : Inhabited Document := ⟨.null⟩

/-- A text; a plain value that is not quoted counts as it is written. -/
def string? : Document → Option String
  | .null => some "null"
  | .boolean value => some (if value then "true" else "false")
  | .number written => some written
  | .text value => some value
  | .list _ => none
  | .map _ => none

/-- The truth value that the document is. -/
def boolean? : Document → Option Bool
  | .boolean value => some value
  | _ => none

/-- A whole number of at most `bits` bits. -/
def natural? (bits : Nat) : Document → Option Nat
  | .number written =>
    let digits := written.toList
    if !digits.isEmpty && digits.all Char.isDigit then
      (some (Nat.ofDigitChars 10 digits 0)).filter (· < Nat.pow 2 bits)
    else none
  | _ => none

/-- A quoted text that is the name of a choice. -/
def choice? {α : Type} (named : String → Option α) : Document → Option α
  | .text value => named value
  | _ => none

/-- A list of which each item can be read. -/
def listOf? {α : Type} (read : Document → Option α) : Document → Option (List α)
  | .list items => items.mapM read
  | _ => none

/-- The fields of a map. -/
def fields? : Document → Option Fields
  | .map fields => some fields
  | _ => none

/-- A map whose values all have one form. -/
def mapOf? {α : Type} (read : Document → Option α) (document : Document) :
    Option (List (String × α)) := do
  (← document.fields?).mapM fun (name, value) => (read value).map (name, ·)

end Document

namespace Fields

variable {α : Type}

/-- A field that must be there. -/
def required? (fields : Fields) (name : String) (read : Document → Option α) : Option α :=
  (fields.lookup name).bind read

/-- A field that may be absent or null. -/
def optional? (fields : Fields) (name : String) (read : Document → Option α) :
    Option (Option α) :=
  match fields.lookup name with
  | none => some none
  | some .null => some none
  | some value => (read value).map some

/-- A field that has a value of its own where it is absent. -/
def orElse? (fields : Fields) (name : String) (absent : α) (read : Document → Option α) :
    Option α :=
  ((fields.lookup name).map read).getD (some absent)

end Fields

end Retail
