import ItemPipeline.Decimal.Shortest
import ItemPipeline.Unicode.Quoted

/-!
Values of scripts, and their texts.
-/

namespace ItemPipeline.Script

inductive Datum
  | unit
  | bool (b : Bool)
  | int (n : Int)
  | float (x : Float)
  | char (c : Char)
  | text (s : String)
  | array (items : List Datum)
  | map (members : List (String × Datum))
  | range (first last : Int) (closed : Bool)
  | function (name : String) (args : List Datum)
  | shared (cell : Nat)
deriving Inhabited

namespace Datum

def typeName : Datum → String
  | unit => "()"
  | bool _ => "bool"
  | int _ => "i64"
  | float _ => "f64"
  | char _ => "char"
  | text _ => "string"
  | array _ => "array"
  | map _ => "map"
  | range _ _ false => "range"
  | range _ _ true => "range="
  | function _ _ => "Fn"
  | shared _ => "shared"

def signatureName : Datum → String
  | text _ => "&str | ImmutableString | String"
  | d => d.typeName

def farStyle : Decimal.Style where
  tie := .up
  keepsPoint := false
  isScientific _ := true
  plus := false
  nan := "NaN"
  infinite := "inf"

def nearStyle : Decimal.Style where
  tie := .up
  keepsPoint := true
  isScientific _ := false
  nan := "NaN"
  infinite := "inf"

def innerStyle : Decimal.Style where
  tie := .up
  keepsPoint := true
  isScientific e := e < -4 || e ≥ 16
  plus := false
  nan := "NaN"
  infinite := "inf"

def plainFloat (x : Float) : String :=
  if x == 0 then "0.0"
  else if x.abs > 1e13 || x.abs < 1e-13 then
    farStyle.write x
  else nearStyle.write x

def innerFloat (x : Float) : String :=
  innerStyle.write x

end Datum

namespace Datum

mutual

def inner : Datum → String
  | unit => "()"
  | bool b => if b then "true" else "false"
  | int n => toString n
  | float x => innerFloat x
  | char c => Unicode.quoted '\'' [c]
  | text s => Unicode.quoted '"' s.toList
  | array l => "[" ++ String.intercalate ", " (innerList l) ++ "]"
  | map m => "#\x7b" ++ String.intercalate ", " (innerMembers m) ++ "\x7d"
  | range a b closed => toString a ++ (if closed then "..=" else "..") ++ toString b
  | function n _ => "Fn(" ++ n ++ ")"
  | shared _ => "<shared>"

def innerList : List Datum → List String
  | [] => []
  | a :: r => a.inner :: innerList r

def innerMembers : List (String × Datum) → List String
  | [] => []
  | (n, d) :: r => (Unicode.quoted '"' n.toList ++ ": " ++ d.inner) :: innerMembers r

end

def toText : Datum → String
  | unit => ""
  | float x => plainFloat x
  | char c => String.singleton c
  | text s => s
  | d => d.inner

end Datum

end ItemPipeline.Script
