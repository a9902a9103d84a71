import ItemPipeline.Script.Lexer
import ItemPipeline.Script.Syntax

/-!
From tokens to a script. Expressions nest to a fixed depth only.
-/

namespace ItemPipeline.Script

inductive SyntaxFault
  | lex (f : LexFault)
  | unexpected (token : String)
  | incomplete
  | tooDeep
  | missing (token context : String)
  | mismatch (wanted found : String)
  | duplicateMember (name : String)
  | duplicateFunction (name : String) (params : Nat)
  | duplicateParam (function param : String)
  | nameWanted
  | memberWanted
  | functionNameWanted
  | paramsWanted (function : String)
  | nestedFunction
  | strayLeave
  | notAssignable
  | reserved (word : String)
  | lastDefault
  | emptyPart (what : String)
deriving Repr, DecidableEq

namespace SyntaxFault

def paramsText : Nat → String
  | 0 => ""
  | 1 => " with 1 parameter"
  | n => s!" with {n} parameters"

def message : SyntaxFault → String
  | lex f => f.message
  | unexpected t => s!"Unexpected '{t}'"
  | incomplete => "Script is incomplete"
  | tooDeep => "Expression exceeds maximum complexity"
  | missing t c => s!"Expecting '{t}' {c}"
  | mismatch w f => s!"Expecting {w}, not {f}"
  | duplicateMember n => s!"Duplicated property for object map literal: {n}"
  | duplicateFunction n k => s!"Function {n}{paramsText k} already exists"
  | duplicateParam f p => s!"Duplicated parameter {p} for function {f}"
  | nameWanted => "Expecting name of a variable"
  | memberWanted => "Expecting name of a property"
  | functionNameWanted => "Expecting function name in function declaration"
  | paramsWanted n => s!"Expecting parameters for function {n}"
  | nestedFunction =>
    "Function definitions must be at global level and cannot be inside a block or another function"
  | strayLeave => "Break statement should only be used inside a loop"
  | notAssignable => "Expression cannot be assigned to"
  | reserved w => s!"'{w}' is a reserved keyword"
  | lastDefault => "Default switch case must be the last"
  | emptyPart w => s!"Expecting {w} expression"

end SyntaxFault

structure SyntaxError where
  fault : SyntaxFault
  place : Place
deriving Repr, DecidableEq

def SyntaxError.message (e : SyntaxError) : String :=
  s!"{e.fault.message} ({e.place.describe})"

structure Reading where
  tokens : List Placed
  functions : List Function := []
  closures : Nat := 0
  known : List String := []
  captured : List String := []

abbrev Parser := StateT Reading (Except SyntaxError)

structure Setting where
  depth : Nat := 0
  inLoop : Bool := false
  inside : Bool := false

def depthLimit : Nat := 64

namespace Parser

def failAt {α : Type} (p : Place) (f : SyntaxFault) : Parser α :=
  throw ⟨f, p⟩

def peek : Parser Placed := do
  match (← get).tokens with
  | t :: _ => pure t
  | [] => pure ⟨.eof, {}⟩

def peekSecond : Parser Token := do
  match (← get).tokens with
  | _ :: t :: _ => pure t.token
  | _ => pure .eof

def place : Parser Place := do
  pure (← peek).place

def next : Parser Placed := do
  let s ← get
  match s.tokens with
  | t :: u :: r =>
    set { s with tokens := u :: r }
    pure t
  | [t] => pure t
  | [] => pure ⟨.eof, {}⟩

def atSign (s : String) : Parser Bool := do
  pure ((← peek).token.isSign s)

def atKeyword (s : String) : Parser Bool := do
  pure ((← peek).token.isKeyword s)

def takeSign (s : String) : Parser Bool := do
  if ← atSign s then
    let _ ← next
    pure true
  else pure false

def takeKeyword (s : String) : Parser Bool := do
  if ← atKeyword s then
    let _ ← next
    pure true
  else pure false

def expectSign (s context : String) : Parser Place := do
  let t ← peek
  match t.token with
  | .bad f => failAt t.place (.lex f)
  | k =>
    if k.isSign s then
      let _ ← next
      pure t.place
    else failAt t.place (.missing s context)

def deeper (s : Setting) : Parser Setting := do
  if s.depth ≥ depthLimit then failAt (← place) .tooDeep
  else pure { s with depth := s.depth + 1 }

def takeName : Parser String := do
  let t ← next
  match t.token with
  | .name n =>
    if reservedWords.contains n then failAt t.place (.reserved n) else pure n
  | .keyword n => failAt t.place (.reserved n)
  | .bad f => failAt t.place (.lex f)
  | _ => failAt t.place .nameWanted

def declare (n : String) : Parser Unit :=
  modify fun s => { s with known := n :: s.known }

def mention (n : String) : Parser Unit :=
  modify fun s =>
    if s.known.contains n || s.captured.contains n then s else { s with captured := s.captured ++ [n] }

def inScope {α : Type} (p : Parser α) : Parser α := do
  let known := (← get).known
  let a ← p
  modify fun s => { s with known := known }
  pure a

end Parser

open Script.Parser

def signText : Token → String
  | .sign s => s
  | .keyword s => s
  | .name s => s
  | .eof => "EOF"
  | _ => ""

def precedence : String → Nat
  | "||" => 30
  | "|" => 30
  | "^" => 30
  | "&&" => 60
  | "&" => 60
  | "==" => 90
  | "!=" => 90
  | "in" => 110
  | "!in" => 110
  | "<" => 130
  | "<=" => 130
  | ">" => 130
  | ">=" => 130
  | "\x3f\x3f" => 135
  | ".." => 140
  | "..=" => 140
  | "+" => 150
  | "-" => 150
  | "*" => 180
  | "/" => 180
  | "%" => 180
  | "**" => 190
  | "<<" => 210
  | ">>" => 210
  | _ => 0

def bindsRight (op : String) : Bool :=
  op == "**"

def peekOp : Parser (Option String) := do
  match (← peek).token with
  | .sign "!" => pure (if (← peekSecond).isKeyword "in" then some "!in" else none)
  | .sign s => pure (if precedence s > 0 then some s else none)
  | .keyword "in" => pure (some "in")
  | _ => pure none

def takeOp (op : String) : Parser Place := do
  let t ← next
  if op = "!in" then
    let _ ← next
  pure t.place

def nonBoolean? : Expr → Option String
  | .unit _ => some "()"
  | .int .. => some "a number"
  | .float .. => some "a floating-point number"
  | .char .. => some "a character"
  | .text .. => some "a string"
  | .joined .. => some "a string"
  | .array .. => some "an array"
  | .map .. => some "an object map"
  | _ => none

def nonIterable? : Expr → Option String
  | .unit _ => some "()"
  | .bool .. => some "a boolean"
  | .int .. => some "a number"
  | .float .. => some "a floating-point number"
  | .char .. => some "a character"
  | .map .. => some "an object map"
  | _ => none

def checkBoolean (e : Expr) : Parser Expr :=
  match nonBoolean? e with
  | some k => failAt e.start (.mismatch "a boolean expression" k)
  | none => pure e

def checkIterable (e : Expr) : Parser Expr :=
  match nonIterable? e with
  | some k => failAt e.start (.mismatch "an iterable value" k)
  | none => pure e

def joinOp (op : String) (a b : Expr) (p : Place) : Parser Expr :=
  match op with
  | "&&" => do pure (.both (← checkBoolean a) (← checkBoolean b) p)
  | "||" => do pure (.either (← checkBoolean a) (← checkBoolean b) p)
  | "\x3f\x3f" => pure (.orElse a b p)
  | op => pure (.binary op a b p)

def negate (e : Expr) (p : Place) : Expr :=
  match e with
  | .int n _ => .int (-n) p
  | .float x _ => .float (-x) p
  | e => .unary "-" e p

def assignOps : List String :=
  ["+=", "-=", "*=", "/=", "%=", "**=", "<<=", ">>=", "&=", "|=", "^=", "\x3f\x3f="]

def isAssignable : Expr → Bool
  | .var .. => true
  | .this _ => true
  | .index .. => true
  | .member .. => true
  | _ => false

def addFunction (f : Function) (p : Place) : Parser Unit := do
  if (← get).functions.any fun g => g.name == f.name && g.params.length == f.params.length then
    failAt p (.duplicateFunction f.name f.params.length)
  else modify fun s => { s with functions := s.functions ++ [f] }

def checkParams (function : String) (p : Place) : List String → Parser Unit
  | [] => pure ()
  | n :: r => if r.contains n then failAt p (.duplicateParam function n) else checkParams function p r

mutual

def parseExpr (s : Setting) : Nat → Parser Expr
  | 0 => do failAt (← place) .tooDeep
  | fuel + 1 => do
    let s ← deeper s
    let a ← parseUnary s fuel
    parseBinary s 1 a fuel

def parseBinary (s : Setting) (least : Nat) (a : Expr) : Nat → Parser Expr
  | 0 => pure a
  | fuel + 1 => do
    match ← peekOp with
    | none => pure a
    | some op =>
      let k := precedence op
      if k < least ∨ (k = least ∧ ¬ bindsRight op) then pure a
      else
        let p ← takeOp op
        let b ← parseUnary s fuel
        let following ← peekOp
        let k' := (following.map precedence).getD 0
        let b ← if (k = k' ∧ bindsRight op) ∨ k < k' then parseBinary s k b fuel else pure b
        let s ← deeper s
        parseBinary s least (← joinOp op a b p) fuel

def parseUnary (s : Setting) : Nat → Parser Expr
  | 0 => do failAt (← place) .tooDeep
  | fuel + 1 => do
    let t ← peek
    match t.token with
    | .sign "-" => do
      let _ ← next
      pure (negate (← parseUnary (← deeper s) fuel) t.place)
    | .sign "+" => do
      let _ ← next
      match ← parseUnary (← deeper s) fuel with
      | .int n p => pure (.int n p)
      | .float x p => pure (.float x p)
      | e => pure (.unary "+" e t.place)
    | .sign "!" => do
      let _ ← next
      pure (.unary "!" (← parseUnary (← deeper s) fuel) t.place)
    | .eof => failAt t.place .incomplete
    | _ => do parsePostfix s (← parsePrimary s fuel) fuel

def parsePrimary (s : Setting) : Nat → Parser Expr
  | 0 => do failAt (← place) .tooDeep
  | fuel + 1 => do
    let t ← peek
    let p := t.place
    match t.token with
    | .int n => let _ ← next; pure (.int n p)
    | .float x => let _ ← next; pure (.float x p)
    | .char c => let _ ← next; pure (.char c p)
    | .text x => let _ ← next; pure (.text x p)
    | .piece x true => let _ ← next; pure (.text x p)
    | .piece x false => do
      let _ ← next
      let rest ← parsePieces (← deeper s) fuel
      pure (.joined (.text x p :: rest) p)
    | .keyword "true" => let _ ← next; pure (.bool true p)
    | .keyword "false" => let _ ← next; pure (.bool false p)
    | .keyword "this" => let _ ← next; pure (.this p)
    | .keyword "if" => do pure (.stmt (← parseIf (← deeper s) fuel) p)
    | .keyword "switch" => do pure (.stmt (← parseSwitch (← deeper s) fuel) p)
    | .keyword "while" => do pure (.stmt (← parseWhile (← deeper s) fuel) p)
    | .keyword "loop" => do pure (.stmt (← parseWhile (← deeper s) fuel) p)
    | .keyword "do" => do pure (.stmt (← parseDo (← deeper s) fuel) p)
    | .keyword "for" => do pure (.stmt (← parseFor (← deeper s) fuel) p)
    | .keyword w => failAt p (.reserved w)
    | .name n => do
      let _ ← next
      if reservedWords.contains n ∧ n ≠ "exit" then failAt p (.reserved n)
      else if ← takeSign "(" then pure (.call n (← parseArgs (← deeper s) n fuel) p)
      else
        mention n
        pure (.var n p)
    | .sign "(" => do
      let _ ← next
      if ← takeSign ")" then pure (.unit p)
      else
        let e ← parseExpr (← deeper s) fuel
        let _ ← expectSign ")" "for a matching ( in this expression"
        pure e
    | .sign "\x7b" => do pure (.stmt (.block (← parseBlock (← deeper s) fuel) p) p)
    | .sign "[" => do
      let _ ← next
      pure (.array (← parseItems (← deeper s) fuel) p)
    | .sign "#\x7b" => do
      let _ ← next
      pure (.map (← parseMembers (← deeper s) [] fuel) p)
    | .sign "|" => do
      let _ ← next
      parseClosure s p (← parseParams "|" fuel) fuel
    | .sign "||" => do
      let _ ← next
      parseClosure s p [] fuel
    | .bad f => failAt p (.lex f)
    | .eof => failAt p .incomplete
    | k => failAt p (.unexpected (signText k))

def parsePostfix (s : Setting) (e : Expr) : Nat → Parser Expr
  | 0 => pure e
  | fuel + 1 => do
    let t ← peek
    match t.token with
    | .sign "[" => do
      let _ ← next
      parsePostfix s (← parseIndex s e false fuel) fuel
    | .sign "\x3f[" => do
      let _ ← next
      parsePostfix s (← parseIndex s e true fuel) fuel
    | .sign "." => do
      let _ ← next
      parsePostfix s (← parseMember s e false fuel) fuel
    | .sign "\x3f." => do
      let _ ← next
      parsePostfix s (← parseMember s e true fuel) fuel
    | _ => pure e

def parseIndex (s : Setting) (e : Expr) (optional : Bool) : Nat → Parser Expr
  | 0 => pure e
  | fuel + 1 => do
    let i ← parseExpr (← deeper s) fuel
    let _ ← expectSign "]" "for a matching [ in this index expression"
    pure (.index e i optional i.start)

def parseMember (s : Setting) (e : Expr) (optional : Bool) : Nat → Parser Expr
  | 0 => pure e
  | fuel + 1 => do
    let t ← next
    match t.token with
    | .name n =>
      if ← takeSign "(" then pure (.method e n (← parseArgs (← deeper s) n fuel) optional t.place)
      else pure (.member e n optional t.place)
    | .bad f => failAt t.place (.lex f)
    | .eof => failAt t.place .incomplete
    | .keyword w => failAt t.place (.reserved w)
    | _ => failAt t.place .memberWanted

def parseArgs (s : Setting) (function : String) : Nat → Parser (List Expr)
  | 0 => pure []
  | fuel + 1 => do
    if ← takeSign ")" then pure []
    else
      let e ← parseExpr s fuel
      if ← takeSign "," then pure (e :: (← parseArgs s function fuel))
      else
        let _ ← expectSign ")" s!"to close the arguments list of this function call '{function}'"
        pure [e]

def parseItems (s : Setting) : Nat → Parser (List Expr)
  | 0 => pure []
  | fuel + 1 => do
    if ← takeSign "]" then pure []
    else
      let e ← parseExpr s fuel
      if ← takeSign "," then pure (e :: (← parseItems s fuel))
      else
        let _ ← expectSign "]" "to end this array literal"
        pure [e]

def parseMembers (s : Setting) (seen : List String) : Nat → Parser (List (String × Expr))
  | 0 => pure []
  | fuel + 1 => do
    if ← takeSign "\x7d" then pure []
    else
      let t ← next
      let n ← match t.token with
        | .name n => pure n
        | .text n => pure n
        | .keyword w => failAt t.place (.reserved w)
        | .bad f => failAt t.place (.lex f)
        | .eof => failAt t.place (.missing "\x7d" "to end this object map literal")
        | _ => failAt t.place .memberWanted
      if seen.contains n then failAt t.place (.duplicateMember n)
      else
        let _ ← expectSign ":" s!"to follow the property '{n}' in this object map literal"
        let e ← parseExpr s fuel
        if ← takeSign "," then pure ((n, e) :: (← parseMembers s (n :: seen) fuel))
        else
          let _ ← expectSign "\x7d" "to end this object map literal"
          pure [(n, e)]

def parsePieces (s : Setting) : Nat → Parser (List Expr)
  | 0 => pure []
  | fuel + 1 => do
    let p ← place
    let body ← inScope (parseInner s fuel)
    let e := Expr.stmt (.block body p) p
    let t ← next
    match t.token with
    | .piece x true => pure [e, .text x t.place]
    | .piece x false => pure (e :: .text x t.place :: (← parsePieces s fuel))
    | .bad f => failAt t.place (.lex f)
    | _ => failAt t.place (.missing "\x7d" "to terminate this block")

def parseInner (s : Setting) : Nat → Parser (List Stmt)
  | 0 => pure []
  | fuel + 1 => do
    match (← peek).token with
    | .piece .. => pure []
    | .eof => pure []
    | _ =>
      let x ← parseStmt s fuel
      let _ ← takeSign ";"
      let rest ← parseInner s fuel
      pure (if x.isEmpty then rest else x :: rest)

def parseParams (close : String) : Nat → Parser (List String)
  | 0 => pure []
  | fuel + 1 => do
    if ← takeSign close then pure []
    else
      let n ← takeName
      if ← takeSign "," then pure (n :: (← parseParams close fuel))
      else
        let _ ← expectSign close "to close the parameters list"
        pure [n]

def parseClosure (s : Setting) (p : Place) (params : List String) : Nat → Parser Expr
  | 0 => failAt p .tooDeep
  | fuel + 1 => do
    checkParams "" p params
    let outer ← get
    set { outer with known := params, captured := [] }
    let body ← parseStmt { depth := s.depth, inside := true } fuel
    let inner ← get
    let name := s!"anon${inner.closures}"
    set { inner with known := outer.known, captured := outer.captured, closures := inner.closures + 1 }
    inner.captured.forM mention
    let body := match body with
      | .block b _ => b
      | b => [b]
    addFunction ⟨name, inner.captured ++ params, body⟩ p
    pure (.closure name inner.captured p)

def parseBlock (s : Setting) : Nat → Parser (List Stmt)
  | 0 => pure []
  | fuel + 1 => do
    let t ← peek
    if t.token.isSign "\x7b" then
      let _ ← next
      inScope (parseStmts { s with inside := true } fuel)
    else match t.token with
      | .bad f => failAt t.place (.lex f)
      | .eof => failAt t.place .incomplete
      | _ => failAt t.place (.missing "\x7b" "to start a statement block")

def parseStmts (s : Setting) : Nat → Parser (List Stmt)
  | 0 => pure []
  | fuel + 1 => do
    if ← takeSign "\x7d" then pure []
    else
      let t ← peek
      match t.token with
      | .eof => failAt t.place (.missing "\x7d" "to terminate this block")
      | _ =>
        let x ← parseStmt s fuel
        if x.isEmpty then parseStmts s fuel
        else
          let t ← peek
          match t.token with
          | .sign "\x7d" => pure (x :: (← parseStmts s fuel))
          | .sign ";" =>
            if !x.isClosed then
              let _ ← next
            pure (x :: (← parseStmts s fuel))
          | .bad f => failAt t.place (.lex f)
          | .eof => failAt t.place (.missing "\x7d" "to terminate this block")
          | _ =>
            if x.isClosed then pure (x :: (← parseStmts s fuel))
            else failAt t.place (.missing ";" "to terminate this statement")

def parseStmt (s : Setting) : Nat → Parser Stmt
  | 0 => do failAt (← place) .tooDeep
  | fuel + 1 => do
    let t ← peek
    let p := t.place
    match t.token with
    | .eof => pure (.empty p)
    | .sign ";" => let _ ← next; pure (.empty p)
    | .sign "\x7b" => do pure (.block (← parseBlock (← deeper s) fuel) p)
    | .keyword "if" => do parseIf (← deeper s) fuel
    | .keyword "switch" => do parseSwitch (← deeper s) fuel
    | .keyword "while" => do parseWhile (← deeper s) fuel
    | .keyword "loop" => do parseWhile (← deeper s) fuel
    | .keyword "do" => do parseDo (← deeper s) fuel
    | .keyword "for" => do parseFor (← deeper s) fuel
    | .keyword "try" => do parseTry (← deeper s) fuel
    | .keyword "let" => do parseDefine (← deeper s) false fuel
    | .keyword "const" => do parseDefine (← deeper s) true fuel
    | .keyword "fn" => do
      if s.inside then failAt p .nestedFunction
      else
        let _ ← next
        parseFunction p fuel
    | .keyword "private" => do
      let _ ← next
      if (← takeKeyword "fn") ∧ ¬ s.inside then parseFunction p fuel
      else failAt p .nestedFunction
    | .keyword "break" => do
      let _ ← next
      if !s.inLoop then failAt p .strayLeave
      else pure (.leave (← parseOptional (← deeper s) fuel) p)
    | .keyword "continue" => do
      let _ ← next
      if !s.inLoop then failAt p .strayLeave
      else pure (.again p)
    | .keyword "return" => do
      let _ ← next
      pure (.result (← parseOptional (← deeper s) fuel) p)
    | .keyword "throw" => do
      let _ ← next
      pure (.throw (← parseOptional (← deeper s) fuel) p)
    | _ => do
      let e ← parseExpr (← deeper s) fuel
      parseAssign s e fuel

def parseOptional (s : Setting) : Nat → Parser (Option Expr)
  | 0 => pure none
  | fuel + 1 => do
    match (← peek).token with
    | .eof => pure none
    | .sign ";" => pure none
    | .sign "\x7d" => pure none
    | _ => do pure (some (← parseExpr s fuel))

def parseAssign (s : Setting) (e : Expr) : Nat → Parser Stmt
  | 0 => pure (.expr e)
  | fuel + 1 => do
    let t ← peek
    let finish (op : Option String) : Parser Stmt := do
      let _ ← next
      let v ← parseExpr (← deeper s) fuel
      if isAssignable e then pure (.assign op e v t.place) else failAt e.start .notAssignable
    match t.token with
    | .sign "=" => finish none
    | .sign op => if assignOps.contains op then finish (some (op.dropEnd 1).toString) else pure (.expr e)
    | _ => pure (.expr e)

def parseDefine (s : Setting) (constant : Bool) : Nat → Parser Stmt
  | 0 => do failAt (← place) .tooDeep
  | fuel + 1 => do
    let t ← next
    let n ← takeName
    let v ← if ← takeSign "=" then pure (some (← parseExpr s fuel)) else pure none
    declare n
    pure (.define n v constant t.place)

def parseFunction (p : Place) : Nat → Parser Stmt
  | 0 => failAt p .tooDeep
  | fuel + 1 => do
    let t ← next
    match t.token with
    | .name n =>
      if !(← takeSign "(") then failAt (← place) (.paramsWanted n)
      let params ← parseParams ")" fuel
      checkParams n t.place params
      let outer ← get
      set { outer with known := params, captured := [] }
      let body ← parseBlock { inside := true } fuel
      modify fun s => { s with known := outer.known, captured := outer.captured }
      addFunction ⟨n, params, body⟩ t.place
      pure (.empty p)
    | .bad f => failAt t.place (.lex f)
    | .keyword w => failAt t.place (.reserved w)
    | _ => failAt t.place .functionNameWanted

def parseIf (s : Setting) : Nat → Parser Stmt
  | 0 => do failAt (← place) .tooDeep
  | fuel + 1 => do
    let t ← next
    let c ← checkBoolean (← parseExpr s fuel)
    let yes ← parseBlock s fuel
    let no ← if ← takeKeyword "else" then
        if ← atKeyword "if" then do pure [← parseIf (← deeper s) fuel] else parseBlock s fuel
      else pure []
    pure (.ifElse c yes no t.place)

def parseSwitch (s : Setting) : Nat → Parser Stmt
  | 0 => do failAt (← place) .tooDeep
  | fuel + 1 => do
    let t ← next
    let e ← parseExpr s fuel
    let _ ← expectSign "\x7b" "to start a switch block"
    pure (.switch e (← parseCases s fuel) t.place)

def parseCases (s : Setting) : Nat → Parser (List Case)
  | 0 => pure []
  | fuel + 1 => do
    if ← takeSign "\x7d" then pure []
    else
      let t ← peek
      let values ← match t.token with
        | .eof => failAt t.place (.missing "\x7d" "to end this switch block")
        | .name "_" => let _ ← next; pure none
        | _ => do pure (some (← parseAlternatives s fuel))
      let guard ← if ← takeKeyword "if" then do pure (some (← checkBoolean (← parseExpr s fuel))) else pure none
      let _ ← expectSign "=>" "in this switch case"
      let body ← inScope (parseStmt { s with inside := true } fuel)
      let more ← takeSign ","
      if !more ∧ !body.isClosed then
        let t ← peek
        match t.token with
        | .sign "\x7d" => pure ()
        | .bad f => failAt t.place (.lex f)
        | _ => failAt t.place (.missing "," "to separate the items in this switch block")
      let rest ← parseCases s fuel
      if values.isNone ∧ guard.isNone ∧ !rest.isEmpty then failAt t.place .lastDefault
      else pure (.mk values guard body :: rest)

def parseAlternatives (s : Setting) : Nat → Parser (List Expr)
  | 0 => pure []
  | fuel + 1 => do
    let s ← deeper s
    let a ← parseUnary s fuel
    let e ← parseBinary s 31 a fuel
    if ← takeSign "|" then pure (e :: (← parseAlternatives s fuel)) else pure [e]

def parseWhile (s : Setting) : Nat → Parser Stmt
  | 0 => do failAt (← place) .tooDeep
  | fuel + 1 => do
    let t ← next
    let c ← if t.token.isKeyword "while" then do pure (some (← checkBoolean (← parseExpr s fuel))) else pure none
    let p ← place
    pure (.whileLoop c (← parseBlock { s with inLoop := true } fuel) t.place p)

def parseDo (s : Setting) : Nat → Parser Stmt
  | 0 => do failAt (← place) .tooDeep
  | fuel + 1 => do
    let t ← next
    let p ← place
    let body ← parseBlock { s with inLoop := true } fuel
    let k ← next
    match k.token with
    | .keyword "while" => do pure (.doLoop body (← checkBoolean (← parseExpr s fuel)) false t.place p)
    | .keyword "until" => do pure (.doLoop body (← checkBoolean (← parseExpr s fuel)) true t.place p)
    | _ => failAt k.place (.missing "while" "for the do statement")

def parseFor (s : Setting) : Nat → Parser Stmt
  | 0 => do failAt (← place) .tooDeep
  | fuel + 1 => do
    let t ← next
    let (n, counter) ← if ← takeSign "(" then do
        let n ← takeName
        let _ ← expectSign "," "after the iteration variable name"
        let c ← takeName
        let _ ← expectSign ")" "to close the iteration variable"
        pure (n, some c)
      else do pure (← takeName, none)
    if ← takeKeyword "in" then
      let e ← checkIterable (← parseExpr s fuel)
      let p ← place
      let body ← inScope do
        declare n
        counter.forM declare
        parseBlock { s with inLoop := true } fuel
      pure (.forLoop n counter e body t.place p)
    else failAt (← place) (.missing "in" "after the iteration variable")

def parseTry (s : Setting) : Nat → Parser Stmt
  | 0 => do failAt (← place) .tooDeep
  | fuel + 1 => do
    let t ← next
    let body ← parseBlock s fuel
    if ← takeKeyword "catch" then
      let n ← if ← takeSign "(" then do
          let n ← takeName
          let _ ← expectSign ")" "to enclose the catch variable"
          pure (some n)
        else pure none
      let handler ← inScope do
        n.forM declare
        parseBlock s fuel
      pure (.guarded body n handler t.place)
    else failAt (← place) (.missing "catch" "for the 'try' statement")

end

def parseGlobal (fuel : Nat) : Nat → Parser (List Stmt)
  | 0 => pure []
  | n + 1 => do
    match (← peek).token with
    | .eof => pure []
    | _ =>
      let x ← parseStmt {} fuel
      if x.isEmpty then parseGlobal fuel n
      else
        let t ← peek
        match t.token with
        | .eof => pure [x]
        | .sign ";" =>
          if !x.isClosed then
            let _ ← next
          pure (x :: (← parseGlobal fuel n))
        | .bad f => failAt t.place (.lex f)
        | _ =>
          if x.isClosed then pure (x :: (← parseGlobal fuel n))
          else failAt t.place (.missing ";" "to terminate this statement")

def parse (source : String) : Except SyntaxError Code :=
  let tokens := lex source.toList
  let n := tokens.length
  match (parseGlobal (40 * (n + depthLimit)) (n + 1)).run ⟨tokens, [], 0, [], []⟩ with
  | .error e => .error e
  | .ok (body, s) => .ok ⟨body, s.functions⟩

end ItemPipeline.Script
