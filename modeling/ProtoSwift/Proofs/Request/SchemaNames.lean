/-
**Generated messages give their full names.**

The first member of a struct is an expression for the full name of its message. It is put together from the package,
which is a constant of the file, and what is left of the registered name behind it. Both spell the same, whatever the
package and the messages are called, and however deep the message is.

* `SchemaName.evaluate?`, `Code.packageConstant?` — what such an expression comes to, and the constant that it may
  use;
* `SchemaName.of_ofSegments_inPackage`, `SchemaName.evaluate?_of` — what is left of a full name behind its package,
  and the expression made from it;
* `StructDecl.exists_of_mem_shown`, `SourceFile.exists_struct` — the struct of a message is in the code of its file;
* `CompilationUnit.gives_full_names` — the expression in the struct of a message comes to the registered name.
-/

import ProtoSwift.Proofs.Request.TypePaths
import ProtoSwift.Proofs.Symbol.FullNames
import ProtoSwift.Proofs.Text.Printing
import Mathlib

namespace ProtoSwift

open Schema Schema.Request Text

/-! ### Expressions for full names -/

namespace SchemaName

/-- **What an expression for a full name comes to**, read from its text. What is quoted counts as it is, and the
constant for the package may stand in front of it. -/
def evaluate? (constant? : Option String) (expression : String) : Option String :=
  match between? "_protobuf_package + \"" "\"" expression.toList with
  | some quoted => constant?.map (· ++ quoted)
  | none => between? "\"" "\"" expression.toList

/-- A name as a whole is quoted, and comes to itself. -/
theorem evaluate?_whole (constant? : Option String) (name : String) :
    evaluate? constant? (whole name).text = some name := by
  have spelt : "_protobuf_package + \"".toList = '_' :: "protobuf_package + \"".toList := by decide
  have shape : (whole name).text = "\"" ++ name ++ "\"" := rfl
  have starts : ("\"" ++ name ++ "\"").toList.head? = some '"' := by simp
  unfold evaluate?
  rw [shape, between?_of_ne spelt starts (by decide)]
  exact between?_append "\"" "\"" name

/-- What is quoted behind the constant for the package comes to a name in the package. -/
theorem evaluate?_inPackage (package relative : String) :
    evaluate? (some package) (inPackage relative).text = some (package ++ "." ++ relative) := by
  have shape : (inPackage relative).text = "_protobuf_package + \"" ++ ("." ++ relative) ++ "\"" := by
    rw [← String.append_assoc]
    rfl
  unfold evaluate?
  rw [shape, between?_append]
  exact congrArg some String.append_assoc.symm

/-- Without a package, a full name is left as a whole. -/
theorem of_ofSegments_outside {names : List String} (legal : ∀ segment ∈ names, IsSegment segment)
    (full : names ≠ []) : of "" (.ofSegments names) = whole (".".intercalate names) := by
  obtain ⟨first, rest, rfl⟩ := List.exists_cons_of_ne_nil full
  have ofFirst := legal first List.mem_cons_self
  obtain ⟨behind, start⟩ := FullName.exists_toList_path first rest
  obtain ⟨head, others, firstSpelt, other⟩ := ofFirst.exists_first
  have spelt : (FullName.ofSegments (first :: rest)).text.toList
      = '.' :: (FullName.ofSegments (first :: rest)).path.toList := String.toList_append
  -- what goes before a name in no package is two dots, and a full name starts with one
  have dots : ("." ++ "" ++ ".").toList = ['.', '.'] := rfl
  have outOfPackage : ['.', '.'].isPrefixOf? ('.' :: (first.toList ++ behind)) = none := by
    rw [firstSpelt]
    simp [List.isPrefixOf?, other.symm]
  have undotted : FullName.dropDots ('.' :: (first.toList ++ behind)) = first.toList ++ behind :=
    FullName.dropDots_of_isSegment ofFirst behind
  unfold of
  rw [spelt, start, dots, outOfPackage]
  dsimp only
  rw [undotted, ← start, String.ofList_toList]
  rfl

/-- **What is left of a full name behind its package** are the other segments. -/
theorem of_ofSegments_inPackage {segments names : List String} (legal : ∀ segment ∈ segments, IsSegment segment)
    (packaged : segments ≠ []) (full : names ≠ []) :
    of (".".intercalate segments) (.ofSegments (segments ++ names)) = inPackage (".".intercalate names) := by
  have named : ".".intercalate segments ≠ "" := FullName.path_ne_empty packaged legal
  have behind : ("." ++ ".".intercalate segments ++ ".").toList.isPrefixOf?
      (FullName.ofSegments (segments ++ names)).text.toList = some (".".intercalate names).toList := by
    rw [List.isPrefixOf?_eq_some_iff_append_eq, FullName.text, FullName.path_ofSegments_append packaged full,
      ← String.toList_append, ← String.append_assoc, ← String.append_assoc]
    rfl
  unfold of
  rw [behind, if_neg named]
  dsimp only
  rw [String.ofList_toList]

/-- **The expression for a full name comes to it**, wherever the constant for the package stands for the package. -/
theorem evaluate?_of {segments names : List String} (legal : ∀ segment ∈ segments ++ names, IsSegment segment)
    (full : names ≠ []) {constant? : Option String}
    (declared : segments ≠ [] → constant? = some (".".intercalate segments)) :
    evaluate? constant? (of (".".intercalate segments) (.ofSegments (segments ++ names))).text
      = some (".".intercalate (segments ++ names)) := by
  obtain ⟨legalPackage, legalNames⟩ := List.forall_mem_append.mp legal
  by_cases packaged : segments = []
  · subst packaged
    have outside : of (".".intercalate []) (.ofSegments ([] ++ names)) = whole (".".intercalate names) :=
      of_ofSegments_outside legalNames full
    rw [outside, evaluate?_whole, List.nil_append]
  · rw [of_ofSegments_inPackage legalPackage packaged full, declared packaged, evaluate?_inPackage]
    exact congrArg _ (FullName.path_ofSegments_append packaged full).symm

/-- The expression for a full name refers to the constant for the package only if there is a package. -/
theorem package_of_refers {package : String} {name : FullName}
    (refers : "_protobuf_package".toList <+: (of package name).text.toList) : package ≠ "" := by
  rintro rfl
  obtain ⟨relative, shape⟩ : ∃ relative, of "" name = whole relative := by
    unfold of
    exact ⟨_, if_pos rfl⟩
  obtain ⟨rest, spelt⟩ := refers
  have quoted : ("\"" ++ relative ++ "\"").toList = '"' :: (relative ++ "\"").toList := by
    rw [String.append_assoc, String.toList_append]
    rfl
  rw [shape] at spelt
  have starts := spelt.trans quoted
  exact absurd (List.cons.inj starts).1 (by decide)

end SchemaName

/-! ### The constant for the package -/

/-- **The text between the quotes of the constant for the package**, if code declares it. -/
def Code.packageConstant? (code : Code) : Option String :=
  code.findSome? fun
    | .print text => between? "fileprivate let _protobuf_package = \"" "\"\n" text.toList
    | .indent | .outdent => none

/-- Code has no constant if no text in it starts like one. -/
theorem Code.packageConstant?_of_head {code : Code}
    (other : ∀ step ∈ code, ∃ text, step = .print text ∧ text.toList.head? ≠ some 'f') :
    packageConstant? code = none := by
  refine List.findSome?_eq_none_iff.mpr fun step among => ?_
  obtain ⟨text, rfl, different⟩ := other step among
  have spelt : "fileprivate let _protobuf_package = \"".toList
      = 'f' :: "ileprivate let _protobuf_package = \"".toList := by decide
  show between? _ _ text.toList = none
  cases starts : text.toList.head? with
  | none =>
    unfold between?
    rw [List.head?_eq_none_iff.mp starts, spelt]
    rfl
  | some first => exact between?_of_ne spelt starts fun same => different (by rw [starts, same])

namespace SourceFile

/-- **The constant for the package is at the head of a file**, if the file has a package. -/
theorem packageConstant?_code {source : SourceFile} (named : source.package ≠ "") :
    Code.packageConstant? source.code = some source.package := by
  have head : Code.packageConstant? (headCode source.source ++ Code.blank) = none := by
    refine Code.packageConstant?_of_head ?_
    simp [headCode, Code.line, Code.blank]
  have constant : between? "fileprivate let _protobuf_package = \"" "\"\n"
      ("fileprivate let _protobuf_package = \"" ++ source.package ++ "\"" ++ "\n").toList = some source.package := by
    rw [String.append_assoc]
    exact between?_append _ "\"\n" source.package
  obtain ⟨rest, shape⟩ : ∃ rest, source.code = headCode source.source ++ Code.blank
      ++ .print ("fileprivate let _protobuf_package = \"" ++ source.package ++ "\"" ++ "\n") :: rest := by
    rw [code, packageCode, if_neg named]
    simp only [List.append_assoc]
    exact ⟨_, rfl⟩
  unfold Code.packageConstant? at head ⊢
  rw [shape, List.findSome?_append, head, Option.none_or, List.findSome?_cons]
  dsimp only
  rw [constant]

end SourceFile

/-! ### The structs of messages -/

variable {unit : CompilationUnit} {file : FileNode}

theorem MessageNode.mem_shownOf_iff {nodes : List MessageNode} {place : TypePlace} :
    place ∈ shownOf nodes ↔ ∃ node ∈ nodes, node.isMapEntry = false ∧ place ∈ node.shown := by
  unfold shownOf
  rw [List.filter_flatMap, List.mem_flatMap]
  refine exists_congr fun node => and_congr_right fun _ => ?_
  by_cases entry : node.isMapEntry = true
  · rw [filter_places_of_entry entry, entry]
    simp
  · rw [filter_places_of_not_entry entry]
    simp [entry]

namespace StructDecl

/-- The line of a struct that gives the full name of its message by an expression. -/
def nameLine (decl : StructDecl) (expression : String) : String :=
  decl.modifier ++ "static let protoMessageName: String = " ++ expression

/-- The first member of a struct is the full name of its message. -/
theorem exists_code (decl : StructDecl) : ∃ rest, decl.code = Code.lines decl.comments ++ Code.line decl.opening
    ++ .indent :: Code.line (decl.nameLine decl.schemaName.text) ++ rest := by
  rw [code_eq, Code.block, Code.indented, membersCode]
  simp only [List.append_assoc, List.cons_append]
  exact ⟨_, rfl⟩

theorem not_mem_nameLine {decl : StructDecl} (modifier : IsModifier decl.modifier) {expression : String}
    (plain : '\n' ∉ expression.toList) : '\n' ∉ (decl.nameLine expression).toList := by
  have short : '\n' ∉ decl.modifier.toList := by
    rcases modifier with same | same | same <;> (rw [same]; decide)
  unfold nameLine
  rw [String.toList_append, String.toList_append, List.mem_append, List.mem_append]
  rintro ((inModifier | inLine) | inExpression)
  · exact short inModifier
  · exact absurd inLine (by decide)
  · exact plain inExpression

theorem code_infix_codes {decl : StructDecl} {decls : List StructDecl} (among : decl ∈ decls) :
    decl.code <:+: codes decls := by
  induction decls with
  | nil => exact absurd among List.not_mem_nil
  | cons first rest inRest =>
    rw [codes]
    rcases List.mem_cons.mp among with rfl | among
    · exact List.infix_append _ _ _
    · exact (inRest among).trans (List.suffix_append _ _).isInfix

theorem codes_infix_code (decl : StructDecl) : codes decl.structs <:+: decl.code := by
  refine ⟨Code.lines decl.comments ++ Code.line decl.opening ++ .indent :: decl.membersCode
    ++ decl.enums.flatMap fun nested => Code.blank ++ nested.code,
    decl.conformanceCode ++ .outdent :: Code.line "\x7d", ?_⟩
  rw [code_eq, Code.block, Code.indented]
  simp only [List.append_assoc, List.cons_append, List.nil_append]

/-- Every message inside a message has a struct, unless it is a map entry. -/
theorem exists_of_mem_ofNodes {nodes : List MessageNode} {decls : List StructDecl}
    (made : (ofNodes unit file nodes).result = .ok decls) {node : MessageNode} (isNode : node ∈ nodes)
    (kept : node.isMapEntry = false) : ∃ decl ∈ decls, (ofNode unit file node).result = .ok decl := by
  induction nodes generalizing decls with
  | nil => exact absurd isNode List.not_mem_nil
  | cons first rest inRest =>
    by_cases entry : first.isMapEntry = true
    · rw [ofNodes_cons_of_entry entry] at made
      rcases List.mem_cons.mp isNode with rfl | among
      · rw [kept] at entry
        cases entry
      · exact inRest made among
    · obtain ⟨decl, others, declMade, othersMade, rfl⟩ := (ofNodes_cons_eq_ok entry).mp made
      rcases List.mem_cons.mp isNode with rfl | among
      · exact ⟨decl, List.mem_cons_self, declMade⟩
      · obtain ⟨other, isOther, otherMade⟩ := inRest othersMade among
        exact ⟨other, List.mem_cons_of_mem _ isOther, otherMade⟩

/-- **The struct of a message has the structs of the messages inside it in its code**, except map entries and what is
in them. -/
theorem exists_of_mem_shown (node : MessageNode) : ∀ decl, (ofNode unit file node).result = .ok decl →
    ∀ place ∈ node.shown, ∀ inner, place.type = .message inner →
      ∃ nested, (ofNode unit file inner).result = .ok nested ∧ nested.code <:+: decl.code := by
  induction node using MessageNode.inductionOnNested with
  | step node below =>
    intro decl made place shown inner isMessage
    rw [node.shown_eq] at shown
    rcases List.mem_cons.mp shown with rfl | inside
    · cases isMessage
      exact ⟨decl, made, List.infix_refl _⟩
    · obtain ⟨further, among, rfl⟩ := List.mem_map.mp inside
      rcases List.mem_append.mp among with isEnum | isNested
      · obtain ⟨enumeration, _, rfl⟩ := List.mem_map.mp isEnum
        cases isMessage
      · obtain ⟨child, isChild, kept, inChild⟩ := MessageNode.mem_shownOf_iff.mp isNested
        obtain ⟨structsMade, -⟩ := parts_of_ofNode made
        obtain ⟨outer, isOuter, outerMade⟩ := exists_of_mem_ofNodes structsMade isChild kept
        obtain ⟨nested, nestedMade, inOuter⟩ := below child isChild outer outerMade further inChild inner isMessage
        exact ⟨nested, nestedMade, inOuter.trans ((code_infix_codes isOuter).trans decl.codes_infix_code)⟩

end StructDecl

/-- **The structs of the messages of a file are in its code.** Map entries declared inside messages have none, nor has
what is in them. -/
theorem SourceFile.exists_struct {source : SourceFile} (made : (ofNode unit file).result = .ok source)
    {place : TypePlace} (shown : place ∈ file.shown) {node : MessageNode} (isMessage : place.type = .message node) :
    ∃ decl, (StructDecl.ofNode unit file node).result = .ok decl ∧ decl.code <:+: source.code := by
  obtain ⟨structs, structsMade, rfl⟩ := ofNode_eq_ok.mp made
  rw [file.shown_eq] at shown
  rcases List.mem_append.mp shown with inMessages | isEnum
  · obtain ⟨outer, isOuter, inside⟩ := List.mem_flatMap.mp inMessages
    obtain ⟨decl, isDecl, declMade⟩ := Run.exists_result_of_mem structsMade isOuter
    obtain ⟨nested, nestedMade, inDecl⟩ :=
      StructDecl.exists_of_mem_shown outer decl declMade place inside node isMessage
    refine ⟨nested, nestedMade, inDecl.trans ((StructDecl.code_infix_codes isDecl).trans ?_)⟩
    exact List.infix_append _ _ _
  · obtain ⟨enumeration, _, rfl⟩ := List.mem_map.mp isEnum
    cases isMessage

/-! ### Generated files -/

/-- **A struct gives the full name of a message by an expression.** -/
structure StructDecl.GivesName (decl : StructDecl) (source : SourceFile) (name expression : String) : Prop where
  /-- The code of the struct is part of that of the file. -/
  inside : decl.code <:+: source.code
  /-- The expression is in the first line inside the struct. -/
  member : ∃ rest, decl.code = Code.lines decl.comments ++ Code.line decl.opening
    ++ .indent :: Code.line (decl.nameLine expression) ++ rest
  value : SchemaName.evaluate? (Code.packageConstant? source.code) expression = some name
  /-- The constant for the package is used only if the file declares it. -/
  declared : "_protobuf_package".toList <+: expression.toList → (Code.packageConstant? source.code).isSome = true
  /-- The line is printed as it is, unless a line feed in a name ends it. -/
  printed : '\n' ∉ expression.toList →
    (decl.nameLine expression ++ "\n").toList <:+: (Printer.render source.code).toList

/-- **The struct of a message gives the full name of the message**, if that is made of the segments of the package and
of other names. -/
theorem StructDecl.givesName_of_ofNode {source : SourceFile} {node : MessageNode} {decl : StructDecl}
    (made : (ofNode unit file node).result = .ok decl) (inside : decl.code <:+: source.code)
    {segments names : List String} (legal : ∀ segment ∈ segments ++ names, IsSegment segment) (full : names ≠ [])
    (package : file.package = ".".intercalate segments) (same : source.package = file.package)
    (spelt : node.fullName = .ofSegments (segments ++ names)) :
    decl.GivesName source (".".intercalate (segments ++ names)) decl.schemaName.text := by
  have own : decl.schemaName = .of file.package node.fullName := by
    obtain ⟨plans, structs, _, _, rfl⟩ := ofNode_eq_ok.mp made
    rfl
  have legalPackage : ∀ segment ∈ segments, IsSegment segment := fun segment among =>
    legal segment (List.mem_append_left _ among)
  obtain ⟨rest, shape⟩ := decl.exists_code
  constructor
  case inside => exact inside
  case member => exact ⟨rest, shape⟩
  case value =>
    rw [own, package, spelt]
    refine SchemaName.evaluate?_of legal full fun packaged => ?_
    have named : source.package ≠ "" := by
      rw [same, package]
      exact FullName.path_ne_empty packaged legalPackage
    rw [SourceFile.packageConstant?_code named, same, package]
  case declared =>
    intro refers
    rw [own] at refers
    rw [SourceFile.packageConstant?_code (same ▸ SchemaName.package_of_refers refers)]
    rfl
  case printed =>
    intro plain
    have among : Step.print (decl.nameLine decl.schemaName.text ++ "\n") ∈ source.code := by
      refine inside.subset ?_
      rw [shape]
      simp [Code.line]
    refine Printer.infix_render among ?_
    unfold OneLine
    rw [String.toList_append, show "\n".toList = ['\n'] from rfl, List.dropLast_concat]
    have modifier : decl.modifier = unit.options.access.typeModifier := (parts_of_ofNode made).2.2.1
    exact not_mem_nameLine (modifier ▸ unit.options.access.isModifier_typeModifier) plain

namespace CompilationUnit

variable {request : Request} {unit : CompilationUnit} {name : String} {output : OutputFile}

/-- **The struct of a message gives the full name of the message.** Let a file be generated whose package is empty or
is joined from segments, and let no name on the way to a message of it be empty or have a dot. Then the message is
registered under a full name, and its struct gives this name without the dot in front. Only map entries declared
inside messages, and what is in them, have no structs. -/
theorem gives_full_names (made : (ofRequest request).result = .ok unit)
    (generated : (unit.generateFile name).result = .ok output) {file : Schema.File}
    (found : request.file? name = some file) {segments : List String}
    (package : file.package = ".".intercalate segments) (legal : ∀ segment ∈ segments, IsSegment segment) :
    ∃ source, (SourceFile.ofNode unit (FileNode.declare (eraOf file) file)).result = .ok source
      ∧ output.content = Printer.render source.code
      ∧ ∀ place ∈ (FileNode.declare (eraOf file) file).shown, ∀ node, place.type = .message node →
        (∀ part ∈ place.schemaNames, IsSegment part) →
          node ∈ unit.symbols.messages
            ∧ node.fullName.text = "." ++ ".".intercalate (segments ++ place.schemaNames)
            ∧ ∃ decl expression,
              (StructDecl.ofNode unit (FileNode.declare (eraOf file) file) node).result = .ok decl
                ∧ decl.GivesName source (".".intercalate (segments ++ place.schemaNames)) expression := by
  obtain ⟨first, source, firstFound, sourceMade, content⟩ := exists_source_of_generateFile made generated
  obtain rfl := Option.some.inj (found.symm.trans firstFound)
  refine ⟨source, sourceMade, content, fun place shown node isMessage legalNames => ?_⟩
  have placed := (FileNode.mem_shown_iff.mp shown).1
  have named := FileNode.fullName_of_mem_places placed legalNames
  rw [package, packageSegments_intercalate legal, isMessage] at named
  replace named : node.fullName = .ofSegments (segments ++ place.schemaNames) := named
  have all : ∀ segment ∈ segments ++ place.schemaNames, IsSegment segment :=
    List.forall_mem_append.mpr ⟨legal, legalNames⟩
  refine ⟨?_, ?_, ?_⟩
  · have isType : TypeNode.message node ∈ (FileNode.declare (eraOf file) file).types := by
      rw [← isMessage]
      exact (FileNode.perm_types _).subset (List.mem_map_of_mem placed)
    have isFile : FileNode.declare (eraOf file) file ∈ request.table.files :=
      List.mem_map_of_mem (List.mem_of_find?_eq_some found)
    rw [(of_ofRequest made).1]
    exact List.mem_flatMap.mpr ⟨_, isFile, FileNode.mem_allMessages_iff.mpr isType⟩
  · rw [named]
    rfl
  · obtain ⟨decl, declMade, inside⟩ := SourceFile.exists_struct sourceMade shown isMessage
    refine ⟨decl, _, declMade, StructDecl.givesName_of_ofNode declMade inside all ?_ package ?_ named⟩
    · exact List.concat_ne_nil _ _
    · obtain ⟨structs, _, rfl⟩ := SourceFile.ofNode_eq_ok.mp sourceMade
      rfl

/-- A file in which the package and the messages are called the same. -/
def treeFile : Schema.File :=
  { name? := "tree.proto", package? := "Tree.Tree"
    messages := [{ name? := "Tree", messages := [{ name? := "Tree" }] }] }

def treeRequest : Request :=
  { filesToGenerate := ["tree.proto"], files := [treeFile] }

/-- The struct of a message inside one in a package that are all called the same. -/
theorem gives_full_names_tree : ∃ unit output,
    (ofRequest treeRequest).result = .ok unit
      ∧ (unit.generateFile "tree.proto").result = .ok output
      ∧ treeRequest.file? "tree.proto" = some treeFile
      ∧ treeFile.package = ".".intercalate ["Tree", "Tree"]
      ∧ ∃ source : SourceFile, output.content = Printer.render source.code
        ∧ ∃ node ∈ unit.symbols.messages, node.fullName.text = ".Tree.Tree.Tree.Tree"
          ∧ ∃ decl expression, StructDecl.GivesName decl source "Tree.Tree.Tree.Tree" expression := by
  have succeeds : (generate treeRequest).result.toOption.isSome = true := by decide +kernel
  obtain ⟨outputs, allGenerated⟩ := exists_eq_ok_of_isSome succeeds
  obtain ⟨unit, made, output, _, generated⟩ := exists_generateFile_of_generate allGenerated List.mem_cons_self
  have found : treeRequest.file? "tree.proto" = some treeFile := rfl
  have package : treeFile.package = ".".intercalate ["Tree", "Tree"] := by decide +kernel
  have legal : ∀ segment ∈ ["Tree", "Tree"], IsSegment segment := by decide
  have inner : (FileNode.declare (eraOf treeFile) treeFile).shown.any (fun place =>
      place.schemaNames = ["Tree", "Tree"] && place.type.message?.isSome) = true := by decide +kernel
  obtain ⟨place, shown, inner⟩ := List.any_eq_true.mp inner
  obtain ⟨names, isMessage⟩ := Bool.and_eq_true_iff.mp inner
  have names : place.schemaNames = ["Tree", "Tree"] := of_decide_eq_true names
  obtain ⟨node, isMessage⟩ : ∃ node, place.type = .message node := by
    cases type : place.type with
    | message node => exact ⟨node, rfl⟩
    | enumeration _ =>
      rw [type] at isMessage
      cases isMessage
  obtain ⟨source, _, content, all⟩ := gives_full_names made generated found package legal
  obtain ⟨registered, named, decl, expression, _, gives⟩ := all place shown node isMessage (names ▸ legal)
  rw [names] at named gives
  exact ⟨unit, output, made, generated, found, package, source, content, node, registered, named, decl, expression,
    gives⟩

end CompilationUnit

end ProtoSwift
