import ItemPipeline.Script.Callback

/-!
Evaluation of scripts. Every expression and statement counts as an operation, and the number of
operations is limited, so the fuel below never runs out first.
-/

namespace ItemPipeline.Script

open Run

structure Env where
  functions : List Function
  host : String → List Datum → Native
  level : Nat := 0

def Env.function? (env : Env) (name : String) (arity : Nat) : Option Function :=
  env.functions.find? fun f => f.name == name && f.params.length == arity

mutual

def Expr.isPure : Expr → Bool
  | .unit _ | .bool _ _ | .int _ _ | .float _ _ | .char _ _ | .text _ _ | .var _ _ => true
  | .joined l _ => arePure l
  | .array l _ => arePure l
  | .map m _ => membersPure m
  | .both a b _ => a.isPure && b.isPure
  | .either a b _ => a.isPure && b.isPure
  | .orElse a b _ => a.isPure && b.isPure
  | _ => false

def arePure : List Expr → Bool
  | [] => true
  | e :: r => e.isPure && arePure r

def membersPure : List (String × Expr) → Bool
  | [] => true
  | (_, e) :: r => e.isPure && membersPure r

end

def Stmt.isPure : Stmt → Bool
  | .expr e => e.isPure
  | _ => false

def isCall : Expr → Bool
  | .call .. => true
  | .unary .. => true
  | .binary .. => true
  | _ => false

def literal? : Expr → Option Datum
  | .unit _ => some .unit
  | .bool b _ => some (.bool b)
  | .int n _ => some (.int n)
  | .float x _ => some (.float x)
  | .char c _ => some (.char c)
  | .text s _ => some (.text s)
  | _ => none

def caseMatches (d : Datum) : Datum → Bool
  | .range a b closed =>
    match d with
    | .int n => a ≤ n && (if closed then n ≤ b else n < b)
    | .float x => Float.ofInt a ≤ x && (if closed then x ≤ Float.ofInt b else x < Float.ofInt b)
    | d => same d (.range a b closed)
  | k => k.typeName == d.typeName && same d k

def optionalUnit (optional : Bool) : Datum → Bool
  | .unit => optional
  | _ => false

def containment? : String → Option Bool
  | "in" => some true
  | "!in" => some false
  | _ => none

def rangeOf? (op : String) (a b : Datum) : Option Datum :=
  match op, a, b with
  | "..", .int x, .int y => some (.range x y false)
  | "..=", .int x, .int y => some (.range x y true)
  | _, _, _ => none

def sizeFault? : Datum → Option Cause
  | .text s => if s.utf8ByteSize > Library.sizeLimit then some (.tooLarge "Length of string") else none
  | .array l => if l.length > Library.arrayLimit then some (.tooLarge "Size of array/BLOB") else none
  | .map m => if m.length > Library.mapLimit then some (.tooLarge "Size of object map") else none
  | _ => none

def checkSize (p : Place) (d : Datum) : Run Datum :=
  match sizeFault? d with
  | some c => Run.fault c p
  | none => pure d

def answerOrFault (name : String) (args : List Datum) (p : Place) : Answer → Run Datum
  | some (.ok d) => checkSize p d
  | some (.error c) => Run.fault c p
  | none => Run.fault (.unknownFunction (signature name args)) p

def applyBinary (op : String) (a b : Datum) (p : Place) : Run Datum :=
  match containment? op with
  | some wanted =>
    match callNative "contains" [b, a] with
    | some (.ok ⟨.bool x, _⟩) => pure (.bool (x == wanted))
    | _ => Run.fault (.unknownFunction (signature "contains" [b, a])) p
  | none =>
    match rangeOf? op a b with
    | some r => pure r
    | none => answerOrFault op [a, b] p (binaryOp op a b)

def applyAssign (op : Option String) (old new : Datum) (p : Place) : Run Datum :=
  match op with
  | none => pure new
  | some "\x3f\x3f" => pure (match old with
    | .unit => new
    | d => d)
  | some op => answerOrFault (op ++ "=") [old, new] p (assignOp op old new)

def isTrueCondition : Option Expr → Bool
  | none => true
  | some (.bool true _) => true
  | some _ => false

mutual

def evalExpr (env : Env) (e : Expr) : Nat → Run Datum
  | 0 => Run.fault .tooManyOperations e.place
  | fuel + 1 => do
    tick e.place
    evalUncounted env e fuel

def evalUncounted (env : Env) (e : Expr) : Nat → Run Datum
  | 0 => Run.fault .tooManyOperations e.place
  | fuel + 1 =>
    match e with
    | .unit _ => pure .unit
    | .bool b _ => pure (.bool b)
    | .int n _ => pure (.int n)
    | .float x _ => pure (.float x)
    | .char c _ => pure (.char c)
    | .text s _ => pure (.text s)
    | .joined parts p => do checkSize p (.text (String.join ((← evalList env parts fuel).map Datum.toText)))
    | .array items p => do checkSize p (.array (← evalList env items fuel))
    | .map members _ => do pure (.map (mixin [] (← evalMembers env members fuel)))
    | .var n p => lookup n p
    | .this p => do
      match (← get).this with
      | some d => pure d
      | none => Run.fault .unboundThis p
    | .call n args p => evalCall env n args p fuel
    | .unary op a p => do
      let x ← evalExpr env a fuel
      answerOrFault op [x] p (unaryOp op x)
    | .binary op a b p => do
      let x ← evalExpr env a fuel
      let y ← evalExpr env b fuel
      applyBinary op x y p
    | .both a b _ => do
      if ← truth a.place (← evalExpr env a fuel) then
        pure (.bool (← truth b.place (← evalExpr env b fuel)))
      else pure (.bool false)
    | .either a b _ => do
      if ← truth a.place (← evalExpr env a fuel) then pure (.bool true)
      else pure (.bool (← truth b.place (← evalExpr env b fuel)))
    | .orElse a b _ => do
      match ← evalExpr env a fuel with
      | .unit => evalExpr env b fuel
      | d => pure d
    | .closure n captured p => do
      let held ← captured.mapM fun v => share v p
      pure (.function n held)
    | .stmt s _ => evalStmt env s fuel
    | .index .. => evalAt env e (fun d => pure (d, none)) fuel
    | .member .. => evalAt env e (fun d => pure (d, none)) fuel
    | .method .. => evalAt env e (fun d => pure (d, none)) fuel

def evalList (env : Env) (l : List Expr) : Nat → Run (List Datum)
  | 0 => pure []
  | fuel + 1 =>
    match l with
    | [] => pure []
    | e :: r => do
      let d ← evalExpr env e fuel
      pure (d :: (← evalList env r fuel))

def evalMembers (env : Env) (l : List (String × Expr)) : Nat → Run (List (String × Datum))
  | 0 => pure []
  | fuel + 1 =>
    match l with
    | [] => pure []
    | (n, e) :: r => do
      let d ← evalExpr env e fuel
      pure ((n, d) :: (← evalMembers env r fuel))

def evalAt (env : Env) (e : Expr) (f : Datum → Run (Datum × Option Datum)) : Nat → Run Datum
  | 0 => Run.fault .tooManyOperations e.place
  | fuel + 1 =>
    match e with
    | .var n p => do
      let (r, d?) ← f (← lookup n p)
      match d? with
      | some d => assign n d p
      | none => pure ()
      pure r
    | .this p => do
      match (← get).this with
      | none => Run.fault .unboundThis p
      | some d =>
        let (r, d?) ← f d
        modify fun m => { m with this := some (d?.getD d) }
        pure r
    | .index a i optional p => do
      let k ← evalExpr env i fuel
      evalAt env a (fun d => do
        if optionalUnit optional d then pure (.unit, none)
        else
          let (r, c?) ← f (← settle (← ofCause p (getIndex d k)))
          match c? with
          | none => pure (r, none)
          | some c => pure (r, some (← checkSize p (← ofCause p (putIndex d k c))))) fuel
    | .member a n optional p =>
      evalAt env a (fun d => do
        if optionalUnit optional d then pure (.unit, none)
        else
          let (r, c?) ← f (← settle (← ofCause p (getMember n d)))
          match c? with
          | none => pure (r, none)
          | some c => pure (r, some (← checkSize p (← ofCause p (putMember n c d))))) fuel
    | .method a n args optional p => do
      let values ← evalList env args fuel
      let r ← evalAt env a (fun d => do
        if optionalUnit optional d then pure (.unit, none) else callMethod env n d values p fuel) fuel
      pure (← f r).1
    | e => do pure (← f (← evalExpr env e fuel)).1

def callMethod (env : Env) (n : String) (d : Datum) (args : List Datum) (p : Place) :
    Nat → Run (Datum × Option Datum)
  | 0 => Run.fault .tooManyOperations p
  | fuel + 1 =>
    match n, d with
    | "call", .function g held => do
      let (r, _) ← callFunction env g none (held ++ args) [] p fuel
      pure (r, none)
    | n, d =>
      let held? : Option (String × List Datum) := match d with
        | .map m =>
          match Library.member? n m with
          | some (.function g held) => some (g, held)
          | _ => none
        | _ => none
      match held?, env.function? n args.length with
      | some (g, held), _ => callFunction env g (some d) (held ++ args) [] p fuel
      | none, some g => callScript env g (some d) args p fuel
      | none, none => callBuiltIn env n (d :: args) p fuel

def callBuiltIn (env : Env) (n : String) (args : List Datum) (p : Place) : Nat → Run (Datum × Option Datum)
  | 0 => Run.fault .tooManyOperations p
  | fuel + 1 => do
    tick p
    let invoke (g : String) (held : List Datum) : Invoke := fun this args extra =>
      callFunction env g this (held ++ args) extra p fuel
    match callWithFunction invoke n args with
    | some run => do
      let r ← run
      pure (r.value, r.self)
    | none =>
      match env.host n args <|> callNative n args with
      | some (.ok r) => do
        let d ← checkSize p r.value
        let self ← r.self.mapM (checkSize p)
        pure (d, self)
      | some (.error c) => Run.fault c p
      | none => Run.fault (.unknownFunction (signature n args)) p

/-- A function by name; it gets the extra arguments only if it takes them, and what it takes as an
argument may also come as `this`. -/
def callFunction (env : Env) (n : String) (this : Option Datum) (args extra : List Datum) (p : Place) :
    Nat → Run (Datum × Option Datum)
  | 0 => Run.fault .tooManyOperations p
  | fuel + 1 =>
    let k := args.length
    match env.function? n k, env.function? n (k + extra.length) with
    | some g, _ => callScript env g this args p fuel
    | none, some g => callScript env g this (args ++ extra) p fuel
    | none, none =>
      match this, args.getLast?, env.function? n (k - 1) with
      | none, some d, some g => callScript env g (some d) args.dropLast p fuel
      | _, _, _ => callBuiltIn env n args p fuel

def callScript (env : Env) (g : Function) (this : Option Datum) (args : List Datum) (p : Place) :
    Nat → Run (Datum × Option Datum)
  | 0 => Run.fault .tooManyOperations p
  | fuel + 1 => do
    tick p
    if env.level ≥ levelLimit then Run.fault .stackOverflow p
    else
      let outer ← get
      let bound : List Variable := (g.params.zip args).map fun (n, d) => ⟨n, d, false⟩
      set { outer with scope := bound.reverse, this := this }
      let r ← attempt (evalStmts { env with level := env.level + 1 } g.body fuel)
      let inner ← get
      set { inner with scope := outer.scope, this := outer.this }
      match r with
      | .ok d => pure (d, inner.this)
      | .error (.result d) => pure (d, inner.this)
      | .error (.fault f) => throw (.fault (f.throughCall g.name (some p)))
      | .error s => throw s

def evalCall (env : Env) (n : String) (args : List Expr) (p : Place) : Nat → Run Datum
  | 0 => Run.fault .tooManyOperations p
  | fuel + 1 => do
    match env.function? n args.length with
    | some g => do
      let values ← evalList env args fuel
      pure (← callScript env g none values p fuel).1
    | none =>
      match n, args with
      | "call", f :: more => do
        let d ← evalExpr env f fuel
        let values ← evalList env more fuel
        match d with
        | .function g held => pure (← callFunction env g none (held ++ values) [] p fuel).1
        | d => Run.fault (.mismatch "Fn" d.typeName) p
      | "eval", [e] => do
        match ← evalExpr env e fuel with
        | .text source =>
          match parse source with
          | .error f => Run.fault (.parsing f) p
          | .ok s => evalStmts { env with functions := env.functions ++ s.functions } s.body fuel
        | d => Run.fault (.mismatch "string" d.typeName) p
      | "is_def_var", [e] => do
        match ← evalExpr env e fuel with
        | .text v => pure (.bool (← find? v).isSome)
        | d => Run.fault (.mismatch "string" d.typeName) p
      | "is_def_fn", [e, k] => do
        match ← evalExpr env e fuel, ← evalExpr env k fuel with
        | .text v, .int i => pure (.bool (env.function? v i.toNat).isSome)
        | d, _ => Run.fault (.mismatch "string" d.typeName) p
      | n, .var v q :: more => do
        tick q
        let values ← evalList env more fuel
        let d ← lookup v q
        let (r, self) ← callBuiltIn env n (d :: values) p fuel
        match self with
        | some d => assign v d q
        | none => pure ()
        pure r
      | n, args => do
        let values ← evalList env args fuel
        pure (← callBuiltIn env n values p fuel).1

def evalBlock (env : Env) (l : List Stmt) : Nat → Run Datum
  | 0 => pure .unit
  | fuel + 1 => do
    let n ← depth
    let d ← evalStmts env l fuel
    unwind n
    pure d

def evalStmts (env : Env) (l : List Stmt) : Nat → Run Datum
  | 0 => pure .unit
  | fuel + 1 =>
    match l with
    | [] => pure .unit
    | [s] => evalStmt env s fuel
    | s :: r => do
      if s.isPure then pure ()
      else
        let _ ← evalStmt env s fuel
      evalStmts env r fuel

def evalStmt (env : Env) (s : Stmt) : Nat → Run Datum
  | 0 => Run.fault .tooManyOperations s.place
  | fuel + 1 => do
    tick s.place
    match s with
    | .empty _ => pure .unit
    | .expr e => if isCall e then evalUncounted env e fuel else evalExpr env e fuel
    | .define n e constant _ => do
      let d ← match e with
        | some e => evalExpr env e fuel
        | none => pure .unit
      declare n d constant
      pure .unit
    | .assign op e v p => do
      let d ← evalExpr env v fuel
      tick e.start
      let _ ← evalAt env e (fun old => do pure (.unit, some (← applyAssign op old d p))) fuel
      pure .unit
    | .ifElse c yes no _ => do
      if ← truth c.place (← evalExpr env c fuel) then evalBlock env yes fuel else evalBlock env no fuel
    | .switch e cases _ => do
      let d ← evalExpr env e fuel
      evalCases env d cases fuel
    | .whileLoop c body _ q => evalLoop env c body q fuel
    | .doLoop body c untilTrue _ q => evalDo env body c untilTrue q fuel
    | .forLoop n counter e body _ q => do
      let d ← evalExpr env e fuel
      match elements? d with
      | none => Run.fault .notIterable e.place
      | some l =>
        let k ← depth
        let r ← evalFor env n counter l 0 body q fuel
        unwind k
        pure r
    | .block body _ => evalBlock env body fuel
    | .leave e _ => do
      match e with
      | some e => throw (.leave (← evalExpr env e fuel))
      | none => throw (.leave .unit)
    | .again _ => throw .again
    | .result e _ => do
      match e with
      | some e => throw (.result (← evalExpr env e fuel))
      | none => throw (.result .unit)
    | .throw e p => do
      match e with
      | some e => Run.fault (.thrown (← evalExpr env e fuel)) p
      | none => Run.fault (.thrown .unit) p
    | .guarded body n handler _ => do
      let k ← depth
      match ← attempt (evalBlock env body fuel) with
      | .ok d => pure d
      | .error (.fault f) =>
        if f.isLimit then throw (.fault f)
        else
          unwind k
          match n with
          | some n => declare n f.toDatum
          | none => pure ()
          let d ← evalBlock env handler fuel
          unwind k
          pure d
      | .error s => throw s

def evalCases (env : Env) (d : Datum) (cases : List Case) : Nat → Run Datum
  | 0 => pure .unit
  | fuel + 1 =>
    match cases with
    | [] => pure .unit
    | .mk values guard body :: r => do
      let hit ← match values with
        | none => pure true
        | some l => caseHolds env d l fuel
      let holds ← match hit, guard with
        | true, some g => do truth g.place (← evalExpr env g fuel)
        | hit, _ => pure hit
      if holds then
        let n ← depth
        let x ← evalStmt env body fuel
        unwind n
        pure x
      else evalCases env d r fuel

def caseHolds (env : Env) (d : Datum) (l : List Expr) : Nat → Run Bool
  | 0 => pure false
  | fuel + 1 =>
    match l with
    | [] => pure false
    | e :: r => do
      let k ← match literal? e with
        | some k => pure k
        | none => evalUncounted env e fuel
      if caseMatches d k then pure true else caseHolds env d r fuel

def evalRound (env : Env) (body : List Stmt) : Nat → Run (Option Datum)
  | 0 => pure (some .unit)
  | fuel + 1 => do
    let n ← depth
    match ← attempt (evalStmts env body fuel) with
    | .ok _ =>
      unwind n
      pure none
    | .error .again =>
      unwind n
      pure none
    | .error (.leave d) =>
      unwind n
      pure (some d)
    | .error s => throw s

def evalLoop (env : Env) (c : Option Expr) (body : List Stmt) (q : Place) : Nat → Run Datum
  | 0 => Run.fault .tooManyOperations q
  | fuel + 1 => do
    let goesOn ← match c with
      | some c => if isTrueCondition (some c) then pure true else truth c.place (← evalExpr env c fuel)
      | none => pure true
    if !goesOn then pure .unit
    else
      if body.isEmpty then tick q
      match ← evalRound env body fuel with
      | some d => pure d
      | none => evalLoop env c body q fuel

def evalDo (env : Env) (body : List Stmt) (c : Expr) (untilTrue : Bool) (q : Place) : Nat → Run Datum
  | 0 => Run.fault .tooManyOperations q
  | fuel + 1 => do
    match ← evalRound env body fuel with
    | some d => pure d
    | none =>
      let b ← truth c.place (← evalExpr env c fuel)
      if b != untilTrue then evalDo env body c untilTrue q fuel else pure .unit

def evalFor (env : Env) (n : String) (counter : Option String) (l : List Datum) (i : Nat) (body : List Stmt)
    (q : Place) : Nat → Run Datum
  | 0 => Run.fault .tooManyOperations q
  | fuel + 1 =>
    match l with
    | [] => pure .unit
    | d :: r => do
      tick q
      let k ← depth
      match counter with
      | some c => declare c (.int i)
      | none => pure ()
      declare n (← settle d)
      let x ← evalRound env body fuel
      unwind k
      match x with
      | some d => pure d
      | none => evalFor env n counter r (i + 1) body q fuel

end

def fuel : Nat :=
  Nat.pow 10 9

def Code.run (s : Code) (host : String → List Datum → Native) (value : Datum) (converts : Bool) :
    Except Fault Datum :=
  let env : Env := ⟨s.functions, host, 0⟩
  let whole : Run Datum := do
    let d ← match ← attempt (evalStmts env s.body fuel) with
      | .ok d => pure d
      | .error (.result d) => pure d
      | .error s => throw s
    if converts then
      match env.function? "convert" 1 with
      | some g =>
        modify fun m => { m with scope := [⟨g.params.headD "", value, false⟩, ⟨"value", value, false⟩] }
        match ← attempt (evalStmts { env with level := 1 } g.body fuel) with
        | .ok d => pure d
        | .error (.fault f) => throw (.fault (f.throughCall g.name none))
        | .error s => throw s
      | none => pure d
    else pure d
  match whole.run { scope := [⟨"value", value, false⟩] } with
  | (.ok d, _) => .ok d
  | (.error (.result d), _) => .ok d
  | (.error (.leave d), _) => .ok d
  | (.error .again, _) => .ok .unit
  | (.error (.fault f), _) => .error f

end ItemPipeline.Script
