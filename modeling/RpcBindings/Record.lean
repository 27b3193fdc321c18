import RpcBindings.TypeExpr

/-!
# Records and enums

The model of the data that commands exchange: records with typed fields, which may nest further
declarations, and enums.

## Main definitions

* `Field`, `Declaration` — the model.
* `Declaration.declares` — the names that a declaration and what it nests introduce.
-/

namespace RpcBindings

/-- A field of a record. -/
structure Field where
  name : String
  type : TypeExpr
  default : Option Default
  deprecated : Bool
  deriving DecidableEq, Repr

/-- A record or an enum. -/
inductive Declaration
  /-- A record with its fields and what it nests. -/
  | record (name : String) (fields : List Field) (nested : List Declaration) (source : String)
  /-- An enum with its members. -/
  | enumeration (name : String) (members : List String) (source : String)
  deriving Repr

namespace Declaration

/-- The name of a declaration. -/
def name : Declaration → String
  | record n .. => n
  | enumeration n .. => n

/-- The path of the Java file of a declaration. -/
def source : Declaration → String
  | record _ _ _ s => s
  | enumeration _ _ s => s

mutual

/-- Whether a declaration or one nested in it has the name `x`. -/
def declares (x : String) : Declaration → Bool
  | record n _ nested _ => n == x || anyDeclares x nested
  | enumeration n _ _ => n == x

/-- Whether one of several declarations, or one nested in them, has the name `x`. -/
def anyDeclares (x : String) : List Declaration → Bool
  | [] => false
  | d :: ds => declares x d || anyDeclares x ds

end

end Declaration

end RpcBindings
