/-
**The two eras of the schema language.**

Files of the second era track presence for every singular field and may declare defaults. Files of the
third track it only for message fields and fields declared `optional`.

* `Era.ofDeclared` — the era a file declares; a file that declares none is of the second era.
-/

import ProtoSwift.Error

namespace ProtoSwift

/-- A version of the schema language. -/
inductive Era
  | proto2
  | proto3
  deriving DecidableEq, Inhabited, Repr

/-- The era that a file declares. -/
def Era.ofDeclared (declared? : Option String) : Except Error Era :=
  match declared? with
  | none | some "" | some "proto2" => .ok .proto2
  | some "proto3" => .ok .proto3
  | some other => .error (.unsupportedEra other)

end ProtoSwift
