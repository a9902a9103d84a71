import ItemPipeline.XPath.Token

/-!
Reading expressions, loosest operators first; those of one level bind to the left.
-/

namespace ItemPipeline.XPath

abbrev Reader := StateT (List Token) (Except Fault)

namespace Reader

def peek : Reader (Option Token) := do
  pure (← get).head?

def advance : Reader Unit :=
  modify List.tail

def eat (t : Token) : Reader Bool := do
  if (← peek) == some t then
    advance
    pure true
  else pure false

def expect (t : Token) : Reader Unit := do
  match ← peek with
  | none => throw .noMoreInput
  | some u => if u == t then advance else throw .badToken

end Reader

open Reader

def levels : List (List BinaryOp) :=
  [[.or], [.and], [.eq, .ne], [.lt, .le, .gt, .ge], [.add, .sub], [.mul, .div, .mod]]

mutual

def readExpr : Nat → Reader (Option Expr)
  | 0 => throw .noMoreInput
  | fuel + 1 => readLevel levels fuel

def readLevel (ls : List (List BinaryOp)) : Nat → Reader (Option Expr)
  | 0 => throw .noMoreInput
  | fuel + 1 => do
    match ls with
    | [] => readUnary fuel
    | ops :: tighter =>
      match ← readLevel tighter fuel with
      | none => pure none
      | some a => do pure (some (← readMore ops tighter a fuel))

def readMore (ops : List BinaryOp) (tighter : List (List BinaryOp)) (a : Expr) : Nat → Reader Expr
  | 0 => throw .noMoreInput
  | fuel + 1 => do
    match ← peek with
    | some (.op o) =>
      if ops.contains o then
        advance
        match ← readLevel tighter fuel with
        | some b => readMore ops tighter (.binary o a b) fuel
        | none => throw .missingOperand
      else pure a
    | _ => pure a

def readUnary : Nat → Reader (Option Expr)
  | 0 => throw .noMoreInput
  | fuel + 1 => do
    if ← eat (.op .sub) then
      match ← readUnary fuel with
      | some a => pure (some (.negate a))
      | none => throw .missingOperand
    else
      match ← readPath fuel with
      | none => pure none
      | some a => do pure (some (← readUnion a fuel))

def readUnion (a : Expr) : Nat → Reader Expr
  | 0 => throw .noMoreInput
  | fuel + 1 => do
    if ← eat (.op .union) then
      match ← readPath fuel with
      | some b => readUnion (.binary .union a b) fuel
      | none => throw .missingOperand
    else pure a

def readPath : Nat → Reader (Option Expr)
  | 0 => throw .noMoreInput
  | fuel + 1 => do
    match ← readSteps .context fuel with
    | some p => pure (some p)
    | none =>
      if ← eat (.sign "/") then
        match ← readSteps .root fuel with
        | some p => pure (some p)
        | none => pure (some .root)
      else
        match ← readPrimary fuel with
        | none => pure none
        | some a => do
          let a ← readFilters a fuel
          if ← eat (.sign "/") then
            match ← readSteps a fuel with
            | some p => pure (some p)
            | none => throw .trailingSlash
          else pure (some a)

def readSteps (start : Expr) : Nat → Reader (Option Expr)
  | 0 => throw .noMoreInput
  | fuel + 1 => do
    match ← readStep fuel with
    | none => pure none
    | some s => do pure (some (.path start (← readMoreSteps [s] fuel)))

def readMoreSteps (acc : List Step) : Nat → Reader (List Step)
  | 0 => throw .noMoreInput
  | fuel + 1 => do
    if ← eat (.sign "/") then
      match ← readStep fuel with
      | some s => readMoreSteps (s :: acc) fuel
      | none => throw .trailingSlash
    else pure acc.reverse

def readStep : Nat → Reader (Option Step)
  | 0 => throw .noMoreInput
  | fuel + 1 => do
    let axis ← match ← peek with
      | some (.axis a) => do
        advance
        pure a
      | _ => pure .child
    let test ← match ← peek with
      | some (.nodeTest t) => do
        advance
        pure (some t)
      | some (.name t) => do
        advance
        pure (some (.name t))
      | _ => pure none
    match test with
    | none => pure none
    | some t => do pure (some (.mk axis t (← readPredicates [] fuel)))

def readPredicates (acc : List Expr) : Nat → Reader (List Expr)
  | 0 => throw .noMoreInput
  | fuel + 1 => do
    if ← eat (.sign "[") then
      match ← readExpr fuel with
      | none => throw .emptyPredicate
      | some e => do
        expect (.sign "]")
        readPredicates (e :: acc) fuel
    else pure acc.reverse

def readFilters (a : Expr) : Nat → Reader Expr
  | 0 => throw .noMoreInput
  | fuel + 1 => do
    if ← eat (.sign "[") then
      match ← readExpr fuel with
      | none => throw .emptyPredicate
      | some e => do
        expect (.sign "]")
        readFilters (.filter a e) fuel
    else pure a

def readPrimary : Nat → Reader (Option Expr)
  | 0 => throw .noMoreInput
  | fuel + 1 => do
    match ← peek with
    | some (.variable q) => do
      advance
      pure (some (.variable q))
    | some (.literal s) => do
      advance
      pure (some (.literal s))
    | some (.number x) => do
      advance
      pure (some (.number x))
    | some (.sign "(") => do
      advance
      let e ← readExpr fuel
      expect (.sign ")")
      pure e
    | some (.function q) => do
      advance
      expect (.sign "(")
      let args ← readArgs fuel
      expect (.sign ")")
      pure (some (.call q args))
    | _ => pure none

def readArgs : Nat → Reader (List Expr)
  | 0 => throw .noMoreInput
  | fuel + 1 => do
    match ← readExpr fuel with
    | none => pure []
    | some e => readMoreArgs [e] fuel

def readMoreArgs (acc : List Expr) : Nat → Reader (List Expr)
  | 0 => throw .noMoreInput
  | fuel + 1 => do
    if ← eat (.sign ",") then
      match ← readExpr fuel with
      | some e => readMoreArgs (e :: acc) fuel
      | none => throw .missingArgument
    else pure acc.reverse

end

def parse (text : String) : Except Fault Expr := do
  let chars := text.toList
  let (ts, bad) := tokens none chars (chars.length + 1)
  let (e, rest) ← readExpr (16 * ts.length + 32) ts
  if !rest.isEmpty ∨ bad then throw .extraTokens
  match e with
  | some e => pure e
  | none => throw .noExpression

end ItemPipeline.XPath
