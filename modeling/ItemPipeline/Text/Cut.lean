import ItemPipeline.Text.Blank

/-!
Cutting a text at characters: at the first separator, at every separator, and into lines.
-/

namespace ItemPipeline.Text

def cutAt (sep : Char) : List Char → Option (List Char × List Char)
  | [] => none
  | c :: r => if c = sep then some ([], r) else (cutAt sep r).map fun (a, b) => (c :: a, b)

def twoLines (s : List Char) : List Char × List Char :=
  (cutAt '\n' s).getD (s, [])

def splitOn (sep : Char) : List Char → List (List Char)
  | [] => [[]]
  | c :: r =>
    if c = sep then [] :: splitOn sep r
    else match splitOn sep r with
      | [] => [[c]]
      | a :: t => (c :: a) :: t

def dropReturn (s : List Char) : List Char :=
  match s.reverse with
  | '\r' :: r => r.reverse
  | _ => s

def lines (s : List Char) : List (List Char) :=
  let rec ended : List (List Char) → List (List Char)
    | [] => []
    | [a] => if a = [] then [] else [a]
    | a :: b :: t => dropReturn a :: ended (b :: t)
  ended (splitOn '\n' s)

def dropPrefix? : List Char → List Char → Option (List Char)
  | [], s => some s
  | _ :: _, [] => none
  | p :: ps, c :: cs => if p = c then dropPrefix? ps cs else none

def dropSuffix? (t s : List Char) : Option (List Char) :=
  (dropPrefix? t.reverse s.reverse).map List.reverse

def replaceAll (x y : List Char) (s : List Char) : List Char :=
  if x = [] then s else go s s.length
where
  go (s : List Char) : Nat → List Char
    | 0 => s
    | fuel + 1 =>
      match dropPrefix? x s with
      | some r => y ++ go r fuel
      | none =>
        match s with
        | [] => []
        | c :: r => c :: go r fuel

end ItemPipeline.Text
