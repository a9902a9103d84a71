import ItemPipeline.Csv.Reader
import ItemPipeline.Json.Basic

/-!
A table as a JSON list of its rows. Columns are keyed by the cells of the first row, or by their
numbers from one.
-/

namespace ItemPipeline.Csv

inductive Fault
  | delimiter
  | quote
deriving Repr, DecidableEq

def Fault.message : Fault → String
  | delimiter => "delimiter must be a single character"
  | quote => "quotation symbol must be a single character"

def sign? (dflt : Char) (s : String) : Option Char :=
  match s.toList with
  | [] => some dflt
  | [c] => if c.toNat < 128 then some c else none
  | _ => none

def format (delimiter quote : String) : Except Fault Format :=
  match sign? ',' delimiter, sign? '"' quote with
  | none, _ => .error .delimiter
  | _, none => .error .quote
  | some d, some q => .ok ⟨d, if quote = "" then none else some q⟩

def columnKey (header : List String) (i : Nat) : String :=
  (header[i]?).getD (toString (i + 1))

def rowJson (header row : List String) : Json :=
  .object (Json.Members.ofList (row.zipIdx.map fun (v, i) => (columnKey header i, .str v)))

def tableJson (withHeader : Bool) (rows : List (List String)) : Json :=
  match withHeader, rows with
  | true, header :: rows => .array (rows.map (rowJson header))
  | _, rows => .array (rows.map (rowJson []))

def toJson (text delimiter quote : String) (withHeader : Bool) : Except Fault String :=
  (format delimiter quote).map fun f => (tableJson withHeader (records f text.toList)).render

end ItemPipeline.Csv
