import HeadUnit.Text.Integer

/-!
# TOML values

A document is a list of statements: a pair of a key and a value, the header of
a table, or the header of an entry of an array of tables. A key is a path of
names. Numbers and moments keep the characters they were written with; whether
a number is a proper one is asked only when its value is wanted.
-/

namespace HeadUnit.Toml

/-- A path of names. -/
abbrev Key := List String

/-- A value. -/
inductive Value
  | string (text : String)
  | bool (b : Bool)
  | integer (literal : List Char)
  | float (literal : List Char)
  /-- A date, a time, or both. -/
  | moment (literal : List Char)
  | array (items : List Value)
  | table (members : List (Key × Value))
  deriving Repr, Inhabited

/-- A statement. -/
inductive Statement
  | pair (key : Key) (value : Value)
  | table (key : Key)
  | arrayTable (key : Key)
  deriving Repr

/-- Removes single underscores between other characters. -/
def dropUnderscores : Bool → List Char → Option (List Char)
  | _, [] => some []
  | _, ['_'] => none
  | after, '_' :: cs => if after then dropUnderscores false cs else none
  | _, c :: cs => (dropUnderscores true cs).map (c :: ·)

/-- The integer of a literal, if it is a proper one of 64 bits: decimal without
    needless zeros, or with a base mark and without a sign. -/
def integer? (literal : List Char) : Option Int64 :=
  let read (base : Nat) (negative : Bool) (ds : List Char) : Option Int64 :=
    match Integer.digits base false 0 ds with
    | .ok n => (Integer.signed negative n).toOption
    | .error _ => none
  let based (base : Nat) (ds : List Char) : Option Int64 :=
    (dropUnderscores false ds).bind (read base false)
  match literal with
  | '0' :: 'x' :: c :: cs => based 16 (c :: cs)
  | '0' :: 'o' :: c :: cs => based 8 (c :: cs)
  | '0' :: 'b' :: c :: cs => based 2 (c :: cs)
  | cs => do
    let (negative, ds) := Integer.splitSign cs
    let ds ← dropUnderscores false ds
    match ds with
    | [] => none
    | '0' :: _ :: _ => none
    | ds => read 10 negative ds

end HeadUnit.Toml
