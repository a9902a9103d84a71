import ItemPipeline.Script.Native
import ItemPipeline.Unicode.Case

/-!
Functions on texts and characters. Places and lengths count characters.
-/

namespace ItemPipeline.Script.Library

open Native

def pattern? : Datum → Option (List Char)
  | .text s => some s.toList
  | .char c => some [c]
  | _ => none

def ofChars (s : List Char) : Datum :=
  .text (String.ofList s)

def indexOf (x : List Char) (i : Nat) : List Char → Int
  | [] => if x = [] then i else -1
  | c :: r => if x.isPrefixOf (c :: r) then i else indexOf x (i + 1) r

def hasInfix (x s : List Char) : Bool :=
  indexOf x 0 s ≥ 0

def pieces (x : List Char) (limit : Nat) (acc : List Char) (s : List Char) : Nat → List (List Char)
  | 0 => [acc.reverse ++ s]
  | fuel + 1 =>
    if limit ≤ 1 then [acc.reverse ++ s]
    else match s with
      | [] => [acc.reverse]
      | c :: r =>
        if x.isPrefixOf (c :: r) then acc.reverse :: pieces x (limit - 1) [] ((c :: r).drop x.length) fuel
        else pieces x limit (c :: acc) r fuel

def splitAll (x s : List Char) (limit : Nat) : List (List Char) :=
  if x = [] then [[]] ++ s.map (fun c => [c]) ++ [[]] else pieces x limit [] s (s.length + 1)

def splitWords (s : List Char) : List (List Char) :=
  (Text.splitOn ' ' (s.map fun c => if Text.isBlank c then ' ' else c)).filter fun w => w ≠ []

def texts (l : List (List Char)) : Datum :=
  .array (l.map ofChars)

def padTo (length : Int) (x s : List Char) : List Char :=
  if length ≤ s.length ∨ x = [] then s
  else s ++ ((List.replicate (length.toNat - s.length) x).flatten).take (length.toNat - s.length)

def sizeLimit : Nat := 1048576

def textOnly (name : String) (s : String) : Native :=
  let l := s.toList
  match name with
  | "len" => give (.int l.length)
  | "bytes" => give (.int s.utf8ByteSize)
  | "is_empty" => give (.bool (s == ""))
  | "to_upper" => give (ofChars (Unicode.Case.upper l))
  | "to_lower" => give (ofChars (Unicode.Case.lower l))
  | "make_upper" => change (ofChars (Unicode.Case.upper l))
  | "make_lower" => change (ofChars (Unicode.Case.lower l))
  | "trim" => change (ofChars (Text.trimBlanks l))
  | "clear" => change (.text "")
  | "chars" => give (.array (l.map .char))
  | "split" => give (texts (splitWords l))
  | "pop" =>
    match l.getLast? with
    | some c => change (ofChars l.dropLast) (.char c)
    | none => give .unit
  | _ => none

def textInt (name : String) (s : String) (i : Int) : Native :=
  let l := s.toList
  match name with
  | "sub_string" => give (ofChars (l.drop (offset i l.length)))
  | "crop" => change (ofChars (l.drop (offset i l.length)))
  | "truncate" => change (ofChars (l.take i.toNat))
  | "split" => give (texts [l.take (offset i l.length), l.drop (offset i l.length)])
  | "get" => give (((position? i l.length).bind fun k => l[k]?).elim .unit .char)
  | "chars" => give (.array ((l.drop (offset i l.length)).map .char))
  | "pop" =>
    let k := l.length - i.toNat
    change (ofChars (l.take k)) (ofChars (l.drop k))
  | _ => none

def textStretch (name : String) (l : List Char) (start length : Nat) : Native :=
  let part := (l.drop start).take length
  match name with
  | "sub_string" => give (ofChars part)
  | "crop" => change (ofChars part)
  | "chars" => give (.array (part.map .char))
  | _ => none

def textPattern (name : String) (s : String) (x : List Char) : Native :=
  let l := s.toList
  match name with
  | "contains" => give (.bool (hasInfix x l))
  | "starts_with" => give (.bool (x.isPrefixOf l))
  | "ends_with" => give (.bool (x.isSuffixOf l))
  | "index_of" => give (.int (indexOf x 0 l))
  | "split" => give (texts (splitAll x l (l.length + 2)))
  | "split_rev" => give (texts (splitAll x l (l.length + 2)).reverse)
  | "remove" => change (ofChars (Text.replaceAll x [] l))
  | "append" => change (ofChars (l ++ x))
  | _ => none

def textTwo (name : String) (s : String) (a b : Datum) : Native :=
  let l := s.toList
  match name, a, b with
  | "index_of", x, .int i =>
    (pattern? x).bind fun x =>
      let k := offset i l.length
      give (.int (indexOf x k (l.drop k)))
  | "set", .int i, .char c =>
    match position? i l.length with
    | some k => change (ofChars (l.set k c))
    | none => change (.text s)
  | "pad", .int n, x => (pattern? x).bind fun x =>
      if n > sizeLimit then some (.error (.tooLarge "Length of string")) else change (ofChars (padTo n x l))
  | "split", x, .int n => (pattern? x).bind fun x => give (texts (splitAll x l (max n 1).toNat))
  | "replace", x, y => (pattern? x).bind fun x => (pattern? y).bind fun y => change (ofChars (Text.replaceAll x y l))
  | n, .int i, .int k =>
    let (start, length) := stretch i k l.length
    textStretch n l start length
  | _, _, _ => none

def charFunction (name : String) (c : Char) : Native :=
  match name with
  | "to_upper" => give (.char ((Unicode.Case.upperChar c).headD c))
  | "to_lower" => give (.char ((Unicode.Case.lowerChar c).headD c))
  | "to_int" => give (.int c.toNat)
  | _ => none

def onTexts (name : String) (args : List Datum) : Native :=
  match name, args with
  | n, [.text s] => textOnly n s
  | n, [.char c] => charFunction n c
  | n, [.text s, .int i] => textInt n s i
  | n, [.text s, .range a b closed] =>
    let (start, length) := rangeStretch a b closed s.length
    textStretch n s.toList start length
  | n, [.text s, x] =>
    match pattern? x with
    | some x => textPattern n s x
    | none => if n = "append" then change (.text (s ++ x.toText)) else none
  | n, [.text s, a, b] => textTwo n s a b
  | _, _ => none

end ItemPipeline.Script.Library
