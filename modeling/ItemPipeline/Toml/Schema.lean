import ItemPipeline.Decimal.Shortest
import ItemPipeline.Toml.Error
import ItemPipeline.Unicode.Quoted

/-!
Reading settings from values. A fault lies in the value that does not fit; what has no place of its
own is reported at its key or at the value around it.
-/

namespace ItemPipeline.Toml

abbrev Decoder (α : Type) := Toml → Except Error α

def floatStyle : Decimal.Style where
  tie := .up
  keepsPoint := true
  isScientific _ := false
  nan := "NaN"
  infinite := "inf"

def describe : Toml → String
  | text _ s => "string " ++ Unicode.quoted '"' s.toList
  | integer _ i => "integer " ++ Text.ticked (toString i)
  | float _ x => "floating point " ++ Text.ticked (floatStyle.write x)
  | boolean _ b => "boolean " ++ Text.ticked (toString b)
  | array _ _ => "sequence"
  | tables _ => "sequence"
  | moment _ => "map"
  | table _ _ _ => "map"

def fault {α : Type} (v : Toml) (f : Fault) : Except Error α :=
  .error ⟨f, v.span?⟩

def unfitFor {α : Type} (v : Toml) (wanted : String) : Except Error α :=
  v.fault (.unfit v.describe wanted)

def toUInt64 (wanted : String) : Decoder UInt64
  | integer s i =>
    if i < 0 then fault (integer s i) (.unfitValue (integer s i).describe wanted) else .ok i.toNat.toUInt64
  | v => v.unfitFor wanted

def toBool : Decoder Bool
  | boolean _ b => .ok b
  | v => v.unfitFor "a boolean"

def toText (wanted : String) : Decoder String
  | text _ s => .ok s
  | v => v.unfitFor wanted

def items? : Toml → Option (List Toml)
  | array _ l => some l
  | tables l => some l
  | _ => none

def toList {α : Type} (item : Decoder α) (v : Toml) : Except Error (List α) :=
  match v.items? with
  | some l => l.mapM fun i => (item i).mapError (Error.within v.span?)
  | none => v.unfitFor "a sequence"

def checkEmpty : Toml → Except Error Unit
  | array s [] => let _ := s; .ok ()
  | array s l => fault (array s l) (.variantNotEmpty "array")
  | tables l => if l.isEmpty then .ok () else fault (tables l) (.variantNotEmpty "array")
  | table s k m => if m.isEmpty then .ok () else fault (table s k m) (.variantNotEmpty "table")
  | v => v.fault (.variantNotTable v.typeName)

def toCase {α : Type} (choices : List String) (ofName? : String → Option α) : Decoder α
  | text s n =>
    match ofName? n with
    | some a => .ok a
    | none => fault (text s n) (.unknownVariant n choices)
  | table s k m =>
    match m with
    | [] => fault (table s k m) .emptyVariant
    | [(key, v)] =>
      match ofName? key.name with
      | some a => do
        (checkEmpty v).mapError (Error.within s)
        .ok a
      | none => .error ⟨.unknownVariant key.name choices, some key.span⟩
    | _ => fault (table s k m) .severalVariants
  | v => v.fault .noVariant

structure Field (σ : Type) where
  name : String
  set : Toml → σ → Except Error σ

def Field.of {σ α : Type} (name : String) (decode : Decoder α) (put : α → σ → σ) : Field σ :=
  ⟨name, fun v r => (decode v).map fun a => put a r⟩

/-- Settings by name from a table, in the order in which they were written; unknown names are passed
over. An array gives the settings in the order of the fields. -/
def fill {σ : Type} (what : String) (fields : List (Field σ)) (v : Toml) (r : σ) : Except Error σ :=
  match v with
  | table s _ m =>
    m.foldlM (fun r e =>
      match fields.find? fun f => f.name == e.1.name with
      | some f => ((f.set e.2 r).mapError (Error.within (some e.1.span))).mapError (Error.within s)
      | none => .ok r) r
  | v =>
    match v.items? with
    | some l => (fields.zip l).foldlM (fun r (f, x) => (f.set x r).mapError (Error.within v.span?)) r
    | none => v.unfitFor what

def lacking {α : Type} (v : Toml) (index : Nat) (name wanted : String) : Except Error α :=
  match v with
  | table _ _ _ => v.fault (.missing name)
  | _ => v.fault (.tooShort index wanted)

end ItemPipeline.Toml
