/-
**The options of a run, as the parameter of the request sets them.**

The parameter is a list of `key=value` pairs with commas between them. Blank characters around pairs, keys
and values do not count, nor do empty pairs, nor the letter case of values. The last setting of an option
wins.

* `Options.parse` — the options a parameter sets;
* `Setting.parse` — the setting of one pair;
* `FileNaming.outputName` — the name of the generated file.
-/

import ProtoSwift.Error
import ProtoSwift.Text.Blank

namespace ProtoSwift

open Text

/-! ## Access levels -/

/-- Who may use the generated accessors. -/
inductive AccessLevel
  | internalAccess
  | publicAccess
  | privateAccess
  deriving DecidableEq, Inhabited, Repr

/-- The modifier of a field accessor, with the space after it. The internal level needs none. -/
def AccessLevel.modifier : AccessLevel → String
  | internalAccess => ""
  | publicAccess => "public "
  | privateAccess => "private "

/-- The modifier of a type and of the members that the runtime calls. Those cannot be private. -/
def AccessLevel.typeModifier : AccessLevel → String
  | publicAccess => "public "
  | internalAccess | privateAccess => ""

/-! ## Names of generated files -/

/-- How the name of a generated file follows from the name of the schema file. -/
inductive FileNaming
  /-- The path is kept. -/
  | fullPath
  /-- The path becomes a part of the file name. -/
  | pathToUnderscores
  /-- The path is dropped. -/
  | dropPath
  deriving DecidableEq, Inhabited, Repr

/-- The name of a schema file without its extension. -/
def fileStem (name : List Char) : List Char :=
  let extension := ".proto".toList
  if extension.isSuffixOf name then name.take (name.length - extension.length) else name

/-- The path of the file generated for a schema file. -/
def FileNaming.place : FileNaming → List Char → List Char
  | fullPath, stem => stem
  | pathToUnderscores, stem => stem.map fun c => if c = '/' then '_' else c
  | dropPath, stem => ((stem.splitOn '/').getLast?).getD []

/-- The name of the file generated for a schema file. -/
def FileNaming.outputName (naming : FileNaming) (name : String) : String :=
  String.ofList (naming.place (fileStem name.toList)) ++ ".pb.swift"

/-! ## Settings -/

/-- What one pair of the parameter sets. -/
inductive Setting
  | access (level : AccessLevel)
  | naming (rule : FileNaming)
  deriving DecidableEq, Repr

/-- The access level that a value names. -/
def AccessLevel.ofValue? (value : String) : Option AccessLevel :=
  match value with
  | "internal" => some .internalAccess
  | "public" => some .publicAccess
  | "private" => some .privateAccess
  | _ => none

/-- The file naming that a value names. -/
def FileNaming.ofValue? (value : String) : Option FileNaming :=
  match value with
  | "fullpath" => some .fullPath
  | "pathtounderscores" => some .pathToUnderscores
  | "droppath" => some .dropPath
  | _ => none

/-- The setting of a value for a key. -/
def Setting.ofKeyValue (key value : List Char) : Except Error Setting :=
  let name := String.ofList key
  let lower := String.ofList (value.map Char.toLower)
  let invalid := Error.invalidOption name (String.ofList value)
  if name = "Visibility" then
    match AccessLevel.ofValue? lower with
    | some level => .ok (.access level)
    | none => .error invalid
  else if name = "FileNaming" then
    match FileNaming.ofValue? lower with
    | some rule => .ok (.naming rule)
    | none => .error invalid
  else .error (.unknownOption name)

/-- The setting of one pair. A pair without an equals sign is reported as a key without a value. -/
def Setting.parse (pair : List Char) : Except Error Setting :=
  match pair.span (· ≠ '=') with
  | (key, []) => .error (.invalidOption (String.ofList key) "")
  | (key, _ :: value) => Setting.ofKeyValue (trim key) (trim value)

/-! ## Options -/

/-- The options of a run. -/
structure Options where
  access : AccessLevel := .internalAccess
  naming : FileNaming := .fullPath
  deriving DecidableEq, Inhabited, Repr

/-- The options after one more setting. -/
def Options.set (options : Options) : Setting → Options
  | .access level => { options with access := level }
  | .naming rule => { options with naming := rule }

/-- The pairs of a parameter. -/
def Options.pairs (parameter : List Char) : List (List Char) :=
  ((parameter.splitOn ',').map trim).filter (!·.isEmpty)

/-- The options that a parameter sets. The first faulty pair is reported. -/
def Options.parse (parameter : String) : Except Error Options := do
  let settings ← (pairs parameter.toList).mapM Setting.parse
  return settings.foldl set {}

end ProtoSwift
