/-!
# Syntax of the generated source

The generated source is a tree: a file holds items, items hold functions and fields, functions
hold statements and expressions.  The trees cover the part of Rust that clients are made of, and
nothing more.  What they mean to a reader is settled by their tokens, and how they look on paper
by their layout; both are read off the tree.

Names are texts of any kind.  Which of them can stand in a source is a question of its own.
-/

namespace ServiceCatalog.Source

set_option autoImplicit false

/-! ## Types and expressions -/

/-- A type: a path with arguments, a reference, any value of a trait behind a pointer, or some
value of a trait. -/
inductive Ty where
  | path (segments : List String) (arguments : List Ty)
  | reference (target : Ty)
  | dynamic (bound : Ty)
  | existential (bound : Ty)
  deriving Repr, Inhabited

/-- A type that is a name. -/
def Ty.named (name : String) : Ty := .path [name] []

/-- An expression.  A field of a record that is given the variable of its own name is written
short. -/
inductive Expr where
  | path (segments : List String)
  | text (value : String)
  | truth (value : Bool)
  | call (function : Expr) (arguments : List Expr)
  | method (receiver : Expr) (name : String) (arguments : List Expr)
  | field (receiver : Expr) (name : String)
  | await (operand : Expr)
  | attempt (operand : Expr)
  | borrow (operand : Expr)
  | list (elements : List Expr)
  | record (path : List String) (fields : List (String × Expr))
  deriving Repr, Inhabited

/-- An expression that is a name. -/
def Expr.named (name : String) : Expr := .path [name]

/-- The value itself inside a method. -/
def Expr.itself : Expr := .path ["self"]

/-! ## Functions -/

/-- A statement. -/
inductive Statement where
  | bind (mutable : Bool) (name : String) (value : Expr)
  | assign (target value : Expr)
  | run (value : Expr)
  deriving Repr

/-- How a method takes the value it belongs to. -/
inductive Receiver where
  | byValue
  | byMutableValue
  | byReference
  deriving DecidableEq, Repr

/-- A parameter of a function. -/
inductive Binder where
  | receiver (form : Receiver)
  | typed (name : String) (type : Ty)
  deriving Repr

/-- An attribute. -/
inductive Attribute where
  | doc (text : String)
  | derives (traits : List String)
  | deprecated
  | allows (lint : List String)
  deriving Repr

/-- A function: its statements, and the expression whose value it gives. -/
structure Function where
  attributes : List Attribute
  isAsync : Bool
  name : String
  typeParameters : List (String × Ty)
  binders : List Binder
  result : Ty
  body : List Statement
  value : Expr
  deriving Repr

/-! ## Items -/

/-- A field of a structure. -/
structure StructField where
  attributes : List Attribute
  isPublic : Bool
  name : String
  type : Ty
  deriving Repr

/-- A member of a structure. -/
inductive Member where
  | constant (attributes : List Attribute) (name : String) (type : Ty) (value : Expr)
  | function (function : Function)
  deriving Repr

/-- What an import brings in. -/
inductive Imported where
  | name (name : String)
  | all
  | names (names : List String)
  deriving Repr

/-- An item of a file. -/
inductive Item where
  | submodule (name : String)
  | imports (isPublic : Bool) (path : List String) (imported : Imported)
  | record (attributes : List Attribute) (name : String) (fields : List StructField)
  | members (name : String) (members : List Member)
  | function (function : Function)
  deriving Repr

/-- A file: the lines that document it, and its items. -/
structure File where
  docs : List String
  items : List Item
  deriving Repr

end ServiceCatalog.Source
