import Parley.Text.Blank

/-!
# Tables written as texts

A long table of numbers is written as one text: its rows stand between spaces and line breaks, the
numbers of a row between commas, in hexadecimal digits.
-/

namespace Parley

namespace Text

/-- A table that is being read: the finished rows, last first, the finished numbers of the current
row, last first, and the current number, if any of its digits has been read. -/
structure RowReader where
  /-- The finished rows, last first. -/
  rows : List (List Nat) := []
  /-- The finished numbers of the current row, last first. -/
  row : List Nat := []
  /-- The current number. -/
  number : Option Nat := none

namespace RowReader

/-- Finishes the current number. -/
def endNumber (r : RowReader) : RowReader :=
  match r.number with
  | some n => { r with row := n :: r.row, number := none }
  | none => r

/-- Finishes the current row. -/
def endRow (r : RowReader) : RowReader :=
  let r := r.endNumber
  if r.row.isEmpty then r else { r with rows := r.row.reverse :: r.rows, row := [] }

/-- Reads one character. -/
def step (r : RowReader) (c : Char) : RowReader :=
  if c = ' ' || c = '\n' then r.endRow
  else if c = ',' then r.endNumber
  else
    let d := if c ≤ '9' then c.toNat - '0'.toNat else c.toNat - 'a'.toNat + 10
    { r with number := some (r.number.getD 0 * 16 + d) }

end RowReader

/-- The rows of a table. -/
def rows (table : String) : List (List Nat) :=
  (table.toList.foldl RowReader.step {}).endRow.rows.reverse

/-- Some row, given by a first and a last number, holds `n`. -/
def inRows (rows : List (List Nat)) (n : Nat) : Bool :=
  rows.any fun row =>
    match row with
    | [first, last] => first ≤ n && n ≤ last
    | _ => false

example : rows "1,2 ff,10,0" = [[1, 2], [255, 16, 0]] := by decide +kernel

end Text

end Parley
