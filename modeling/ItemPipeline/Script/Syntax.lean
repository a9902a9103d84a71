import ItemPipeline.Script.Token

/-!
Scripts: expressions and statements with their places, and the functions that a script defines.
-/

namespace ItemPipeline.Script

mutual

inductive Expr
  | unit (p : Place)
  | bool (b : Bool) (p : Place)
  | int (n : Int) (p : Place)
  | float (x : Float) (p : Place)
  | char (c : Char) (p : Place)
  | text (s : String) (p : Place)
  | joined (parts : List Expr) (p : Place)
  | array (items : List Expr) (p : Place)
  | map (members : List (String × Expr)) (p : Place)
  | var (name : String) (p : Place)
  | this (p : Place)
  | call (function : String) (args : List Expr) (p : Place)
  | unary (op : String) (e : Expr) (p : Place)
  | binary (op : String) (a b : Expr) (p : Place)
  | both (a b : Expr) (p : Place)
  | either (a b : Expr) (p : Place)
  | orElse (a b : Expr) (p : Place)
  | index (e i : Expr) (optional : Bool) (p : Place)
  | member (e : Expr) (name : String) (optional : Bool) (p : Place)
  | method (e : Expr) (function : String) (args : List Expr) (optional : Bool) (p : Place)
  | closure (function : String) (captured : List String) (p : Place)
  | stmt (s : Stmt) (p : Place)

inductive Stmt
  | empty (p : Place)
  | expr (e : Expr)
  | define (name : String) (value : Option Expr) (constant : Bool) (p : Place)
  | assign (op : Option String) (target value : Expr) (p : Place)
  | ifElse (condition : Expr) (yes no : List Stmt) (p : Place)
  | switch (e : Expr) (cases : List Case) (p : Place)
  | whileLoop (condition : Option Expr) (body : List Stmt) (p bodyPlace : Place)
  | doLoop (body : List Stmt) (condition : Expr) (untilTrue : Bool) (p bodyPlace : Place)
  | forLoop (name : String) (counter : Option String) (e : Expr) (body : List Stmt) (p bodyPlace : Place)
  | block (body : List Stmt) (p : Place)
  | leave (value : Option Expr) (p : Place)
  | again (p : Place)
  | result (value : Option Expr) (p : Place)
  | throw (value : Option Expr) (p : Place)
  | guarded (body : List Stmt) (name : Option String) (handler : List Stmt) (p : Place)

inductive Case
  | mk (values : Option (List Expr)) (guard : Option Expr) (body : Stmt)

end

instance : Inhabited Expr := ⟨.unit {}⟩

instance : Inhabited Stmt := ⟨.empty {}⟩

namespace Expr

def place : Expr → Place
  | unit p | bool _ p | int _ p | float _ p | char _ p | text _ p | joined _ p | array _ p | map _ p
  | var _ p | this p | call _ _ p | unary _ _ p | binary _ _ _ p | both _ _ p | either _ _ p
  | orElse _ _ p | closure _ _ p | stmt _ p | index _ _ _ p | member _ _ _ p | method _ _ _ _ p => p

def start : Expr → Place
  | binary _ a _ _ => a.start
  | both a _ _ => a.start
  | either a _ _ => a.start
  | orElse a _ _ => a.start
  | index e _ _ _ => e.start
  | member e _ _ _ => e.start
  | method e _ _ _ _ => e.start
  | e => e.place

end Expr

namespace Stmt

def place : Stmt → Place
  | expr e => e.start
  | empty p | define _ _ _ p | assign _ _ _ p | ifElse _ _ _ p | switch _ _ p | whileLoop _ _ p _
  | doLoop _ _ _ p _ | forLoop _ _ _ _ p _ | block _ p | leave _ p | again p | result _ p | throw _ p
  | guarded _ _ _ p => p

def isClosed : Stmt → Bool
  | ifElse .. => true
  | switch .. => true
  | whileLoop .. => true
  | forLoop .. => true
  | block .. => true
  | guarded .. => true
  | _ => false

def isEmpty : Stmt → Bool
  | empty _ => true
  | _ => false

end Stmt

structure Function where
  name : String
  params : List String
  body : List Stmt

structure Code where
  body : List Stmt
  functions : List Function

end ItemPipeline.Script
