import HeadUnit.Toml.Document
import HeadUnit.Toml.Names

/-!
# Filling a record from a document

A record knows some keys of the top level, whatever their case, and how each
takes its value. Other keys are ignored, and so are tables; but a known key
that is made a table or an array of tables is wrong.
-/

namespace HeadUnit.Toml

/-- How a record takes values: for a known key, in lower case, the record with
    the value, or none if the value is of the wrong kind. -/
abbrev Shape (α : Type) := String → Option (α → Value → Option α)

/-- A letter in lower case. -/
def lowerChar (c : Char) : Char :=
  if c = Char.ofNat 0x212a then 'k'
  else if c = Char.ofNat 0x130 then 'i'
  else c.toLower

def lower (s : String) : String := String.ofList (s.toList.map lowerChar)

/-- Where pairs go. -/
inductive Section
  | top
  /-- A table that is ignored. -/
  | ignored
  /-- A table in the place of a known key. -/
  | misplaced
  deriving DecidableEq, Repr

/-- A record that is being filled. -/
structure Filling (α : Type) where
  record : α
  names : Names := {}
  place : Section := .top

namespace Filling

variable {α : Type}

/-- Takes one statement. -/
def take (shape : Shape α) (f : Filling α) : Statement → Option (Filling α)
  | .pair k v =>
    match f.place with
    | .ignored => some f
    | .misplaced => none
    | .top => do
      let names ← f.names.pair k v
      let f := { f with names := names }
      match k with
      | [] => none
      | name :: below =>
        match shape (lower name), below with
        | none, _ => some f
        | some set, [] => (set f.record v).map fun r => { f with record := r }
        | some _, _ :: _ => none
  | .table k => do
    let names ← f.names.openTable k
    match k with
    | [] => none
    | name :: below =>
      match shape (lower name), below with
      | none, _ => some { f with names := names, place := .ignored }
      | some _, [] => some { f with names := names, place := .misplaced }
      | some _, _ :: _ => none
  | .arrayTable k => do
    let names ← f.names.openEntry k
    let name ← k.head?
    if (shape (lower name)).isSome then none
    else some { f with names := names, place := .ignored }

end Filling

/-- Fills a record from the text of a document. -/
def fill? {α : Type} (shape : Shape α) (blank : α) (text : String) : Option α := do
  let statements ← parse? text
  let f ← statements.foldlM (Filling.take shape) { record := blank }
  return f.record

/-- Takes a text. -/
def setText {α : Type} (set : α → String → α) (r : α) : Value → Option α
  | .string s => some (set r s)
  | _ => none

/-- Takes an integer. -/
def setInteger {α : Type} (set : α → Int64 → α) (r : α) : Value → Option α
  | .integer l => (integer? l).map (set r)
  | _ => none

/-- Takes a truth value. -/
def setBool {α : Type} (set : α → Bool → α) (r : α) : Value → Option α
  | .bool b => some (set r b)
  | _ => none

end HeadUnit.Toml
