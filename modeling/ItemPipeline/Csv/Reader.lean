/-!
Records of comma-separated text. A quote opens a quoted cell only at the cell's beginning; inside,
two quotes stand for one. Rows end with a newline, a carriage return or both; empty rows are skipped.
-/

namespace ItemPipeline.Csv

structure Format where
  delimiter : Char
  quote : Option Char
deriving Repr, DecidableEq

inductive Place
  | startRecord
  | startCell
  | plain
  | quoted
  | afterQuote
  | afterReturn
deriving Repr, DecidableEq

structure Scan where
  place : Place := .startRecord
  cell : List Char := []
  row : List String := []
  rows : List (List String) := []
deriving Repr, DecidableEq

namespace Scan

def put (s : Scan) (place : Place) (c : Char) : Scan :=
  { s with place := place, cell := c :: s.cell }

def endCell (s : Scan) : Scan :=
  { s with place := .startCell, cell := [], row := String.ofList s.cell.reverse :: s.row }

def endRow (s : Scan) (place : Place) : Scan :=
  let s := s.endCell
  { place := place, cell := [], row := [], rows := s.row.reverse :: s.rows }

def isRowEnd (c : Char) : Bool :=
  c == '\n' || c == '\r'

def plainChar (f : Format) (s : Scan) (c : Char) : Scan :=
  if c = f.delimiter then s.endCell
  else if isRowEnd c then s.endRow (if c = '\r' then .afterReturn else .startRecord)
  else s.put .plain c

def cellStart (f : Format) (s : Scan) (c : Char) : Scan :=
  if f.quote = some c then { s with place := .quoted } else s.plainChar f c

def recordStart (f : Format) (s : Scan) (c : Char) : Scan :=
  if isRowEnd c then { s with place := .startRecord } else s.cellStart f c

def step (f : Format) (s : Scan) (c : Char) : Scan :=
  match s.place with
  | .startRecord => s.recordStart f c
  | .startCell => s.cellStart f c
  | .plain => s.plainChar f c
  | .quoted => if f.quote = some c then { s with place := .afterQuote } else s.put .quoted c
  | .afterQuote => if f.quote = some c then s.put .quoted c else s.plainChar f c
  | .afterReturn => if c = '\n' then { s with place := .startRecord } else s.recordStart f c

def finish (s : Scan) : List (List String) :=
  let s := match s.place with
    | .startRecord => s
    | .afterReturn => s
    | _ => s.endRow .startRecord
  s.rows.reverse

end Scan

def dropMark : List Char → List Char
  | '\uFEFF' :: r => r
  | s => s

def records (f : Format) (s : List Char) : List (List String) :=
  ((dropMark s).foldl (Scan.step f) {}).finish

end ItemPipeline.Csv
