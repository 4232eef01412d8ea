/-
**Full names and their segments.**

A full name is made at once, from a package, the messages around a type and its name, or step by step, from the
package inwards. Names that are neither empty nor have dots are segments of it, and both ways lead to the same
segments: those of the package that are not empty, and then the names. So a full name tells its segments, and a
reference that spells it means it.

* `IsSegment`, `packageSegments` — names that can be segments, and those of a package;
* `FullName.ofSegments` — the name with given segments;
* `FullName.ofParts_eq`, `FullName.foldl_join` — what the two ways make;
* `FullName.segments_ofSegments` — what a name is taken apart into;
* `FullName.ways_agree` — the two ways make one name, its segments are what it is made of, and its text means it;
* `FileNode.fullName_of_mem_places` — the segments of the name of a declared type.
-/

import ProtoSwift.Proofs.Symbol.Nesting
import Mathlib

namespace ProtoSwift

open Text

/-! ### Segments -/

/-- **A name that can be a segment of a full name.** -/
def IsSegment (name : String) : Prop :=
  name ≠ "" ∧ DotFree name

instance (name : String) : Decidable (IsSegment name) :=
  inferInstanceAs (Decidable (_ ∧ _))

/-- **The segments of a package**: what is between its dots, unless it is empty. -/
def packageSegments (package : String) : List String :=
  ((package.toList.splitOn '.').filter (!·.isEmpty)).map String.ofList

/-- A segment starts with something else than a dot. -/
theorem IsSegment.exists_first {name : String} (legal : IsSegment name) :
    ∃ first rest, name.toList = first :: rest ∧ first ≠ '.' := by
  cases spelt : name.toList with
  | nil => exact absurd (String.toList_eq_nil_iff.mp spelt) legal.1
  | cons first rest => exact ⟨first, rest, rfl, fun dot => legal.2 (by rw [spelt, dot]; exact List.mem_cons_self)⟩

theorem map_toList_map_ofList (texts : List (List Char)) : (texts.map String.ofList).map String.toList = texts := by
  rw [List.map_map]
  exact (List.map_congr_left fun _ _ => String.toList_ofList).trans (List.map_id _)

theorem map_ofList_map_toList (names : List String) : (names.map String.toList).map String.ofList = names := by
  rw [List.map_map]
  exact (List.map_congr_left fun _ _ => String.ofList_toList).trans (List.map_id _)

theorem isSegment_of_mem_packageSegments {package segment : String} (among : segment ∈ packageSegments package) :
    IsSegment segment := by
  obtain ⟨piece, isPiece, rfl⟩ := List.mem_map.mp among
  obtain ⟨isPiece, full⟩ := List.mem_filter.mp isPiece
  refine ⟨fun empty => ?_, fun dot => ?_⟩
  · rw [String.ofList_eq_empty_iff.mp empty] at full
    cases full
  · rw [String.toList_ofList] at dot
    exact absurd (mem_of_mem_splitOnP isPiece dot).2 (by decide)

theorem isSegment_of_mem_append_package (package : String) {names : List String}
    (legal : ∀ segment ∈ names, IsSegment segment) :
    ∀ segment ∈ packageSegments package ++ names, IsSegment segment := by
  intro segment among
  rcases List.mem_append.mp among with inPackage | inNames
  · exact isSegment_of_mem_packageSegments inPackage
  · exact legal segment inNames

section Legal

variable {segments : List String} (legal : ∀ segment ∈ segments, IsSegment segment)
include legal

theorem dotFree_of_mem_map_toList : ∀ piece ∈ segments.map String.toList, '.' ∉ piece := by
  intro piece isPiece
  obtain ⟨segment, among, rfl⟩ := List.mem_map.mp isPiece
  exact (legal segment among).2

theorem filter_map_toList : (segments.map String.toList).filter (!·.isEmpty) = segments.map String.toList := by
  rw [List.filter_eq_self]
  intro piece isPiece
  obtain ⟨segment, among, rfl⟩ := List.mem_map.mp isPiece
  simpa using (legal segment among).1

/-- A package that is joined from segments has these. -/
theorem packageSegments_intercalate : packageSegments (".".intercalate segments) = segments := by
  by_cases some : segments = []
  · subst some
    rfl
  · have dot : ".".toList = ['.'] := rfl
    rw [packageSegments, String.toList_intercalate, dot,
      List.splitOn_intercalate '.' (dotFree_of_mem_map_toList legal) (mt List.map_eq_nil_iff.mp some),
      filter_map_toList legal, map_ofList_map_toList]

end Legal

namespace FullName

/-! ### Names made of segments -/

/-- **The full name with some segments.** -/
def ofSegments (segments : List String) : FullName :=
  ⟨".".intercalate segments⟩

theorem toList_path_ofSegments (segments : List String) :
    (ofSegments segments).path.toList = ['.'].intercalate (segments.map String.toList) :=
  String.toList_intercalate

theorem ext_toList {first second : FullName} (same : first.path.toList = second.path.toList) : first = second := by
  cases first
  cases second
  exact congrArg mk (String.toList_inj.mp same)

/-- The parts of a package that are empty make no difference to a name in it. -/
theorem filter_splitOn_package (package : String) :
    (package.toList.splitOn '.').filter (!·.isEmpty) = (packageSegments package).map String.toList :=
  (map_toList_map_ofList _).symm

/-- Leading dots are dropped, and a segment has none. -/
theorem dropDots_of_isSegment {name : String} (legal : IsSegment name) (rest : List Char) :
    dropDots (name.toList ++ rest) = name.toList ++ rest := by
  obtain ⟨first, others, spelt, other⟩ := legal.exists_first
  rw [spelt]
  exact List.dropWhile_cons_of_neg (by simpa using other)

/-- **A name made at once** has the segments of the package, the messages around and its own. -/
theorem ofParts_eq (package : String) {path : List String} {name : String}
    (legal : ∀ segment ∈ path ++ [name], IsSegment segment) :
    ofParts package path name = ofSegments (packageSegments package ++ (path ++ [name])) := by
  have own := legal name (List.mem_append_right _ List.mem_cons_self)
  have undotted : path.map (dropDots ·.toList) = path.map String.toList := by
    refine List.map_congr_left fun segment among => ?_
    have whole := dropDots_of_isSegment (legal segment (List.mem_append_left _ among)) []
    rwa [List.append_nil] at whole
  refine ext_toList ?_
  rw [toList_path_ofSegments, ofParts, String.toList_ofList, undotted, List.append_assoc, List.filter_append,
    filter_splitOn_package, List.map_append, ← filter_map_toList legal, List.map_append]
  rfl

/-- The scope of a package has the segments of the package. -/
theorem ofPackage_eq (package : String) : ofPackage package = ofSegments (packageSegments package) := by
  refine ext_toList ?_
  rw [toList_path_ofSegments, ofPackage, ofParts, String.toList_ofList, List.filter_append, List.filter_append,
    filter_splitOn_package]
  simp

/-- The text of a name starts with its first segment. -/
theorem exists_toList_path (first : String) (rest : List String) :
    ∃ behind, (ofSegments (first :: rest)).path.toList = first.toList ++ behind := by
  rw [toList_path_ofSegments]
  cases rest with
  | nil => exact ⟨[], by rw [List.map_singleton, List.intercalate_singleton, List.append_nil]⟩
  | cons second others =>
    rw [List.map_cons, List.map_cons, List.intercalate_cons_cons, List.append_assoc]
    exact ⟨_, rfl⟩

theorem path_ne_empty {segments : List String} (some : segments ≠ [])
    (legal : ∀ segment ∈ segments, IsSegment segment) : (ofSegments segments).path ≠ "" := by
  obtain ⟨first, rest, rfl⟩ := List.exists_cons_of_ne_nil some
  obtain ⟨behind, spelt⟩ := exists_toList_path first rest
  intro empty
  rw [empty, String.toList_empty] at spelt
  exact (legal first List.mem_cons_self).1 (String.toList_eq_nil_iff.mp (List.append_eq_nil_iff.mp spelt.symm).1)

theorem path_ofSegments_append {front more : List String} (someFront : front ≠ []) (some : more ≠ []) :
    (ofSegments (front ++ more)).path = (ofSegments front).path ++ "." ++ (ofSegments more).path :=
  String.intercalate_append_of_ne_nil someFront some

/-- **A name declared inside a scope** has its own name behind the segments of the scope. -/
theorem join_ofSegments {segments : List String} (legal : ∀ segment ∈ segments, IsSegment segment) (name : String) :
    (ofSegments segments).join name = ofSegments (segments ++ [name]) := by
  by_cases some : segments = []
  · subst some
    rfl
  · have whole := path_ofSegments_append some (List.cons_ne_nil name [])
    rw [join, if_neg (path_ne_empty some legal)]
    exact congrArg mk whole.symm

/-- Names declared one inside the other. -/
theorem foldl_join {segments names : List String} (legal : ∀ segment ∈ segments ++ names, IsSegment segment) :
    names.foldl join (ofSegments segments) = ofSegments (segments ++ names) := by
  induction names generalizing segments with
  | nil => rw [List.foldl_nil, List.append_nil]
  | cons name rest inRest =>
    have outer : ∀ segment ∈ segments, IsSegment segment := fun segment among =>
      legal segment (List.mem_append_left _ among)
    have whole : segments ++ name :: rest = segments ++ [name] ++ rest := List.append_cons _ _ _
    rw [whole] at legal ⊢
    rw [List.foldl_cons, join_ofSegments outer, inRest legal]

/-! ### Names taken apart -/

/-- **A name is taken apart into its segments.** -/
theorem segments_ofSegments {segments : List String} (some : segments ≠ [])
    (legal : ∀ segment ∈ segments, IsSegment segment) : (ofSegments segments).segments = segments := by
  rw [FullName.segments, toList_path_ofSegments,
    List.splitOn_intercalate '.' (dotFree_of_mem_map_toList legal) (mt List.map_eq_nil_iff.mp some),
    map_ofList_map_toList]

/-- The text of a name means the name. -/
theorem ofTypeName_text {segments : List String} (legal : ∀ segment ∈ segments, IsSegment segment) :
    ofTypeName (ofSegments segments).text = ofSegments segments := by
  have spelt : (ofSegments segments).text.toList = '.' :: (ofSegments segments).path.toList := String.toList_append
  have undotted : dropDots (ofSegments segments).path.toList = (ofSegments segments).path.toList := by
    cases segments with
    | nil => rfl
    | cons first rest =>
      obtain ⟨behind, start⟩ := exists_toList_path first rest
      rw [start, dropDots_of_isSegment (legal first List.mem_cons_self)]
  refine ext_toList ?_
  rw [ofTypeName, spelt, String.toList_ofList]
  exact undotted

/-- **The two ways of making a full name agree.** In any package, let the names of the messages around a type and of
the type be without dots and not empty. Joining the names to the scope of the package, one after the other, makes the
name that is made at once. Its segments are those of the package, as far as they are not empty, and then the names,
the last of which it bears. Its text means it, and another such name is the same exactly if its segments are. -/
theorem ways_agree (package : String) {path : List String} {name : String}
    (legal : ∀ segment ∈ path ++ [name], IsSegment segment) :
    (path ++ [name]).foldl join (ofParts package [] "") = ofParts package path name
      ∧ (ofParts package path name).segments = packageSegments package ++ (path ++ [name])
      ∧ (ofParts package path name).bareName = name
      ∧ ofTypeName (ofParts package path name).text = ofParts package path name
      ∧ ∀ {otherPackage : String} {otherPath : List String} {otherName : String},
        (∀ segment ∈ otherPath ++ [otherName], IsSegment segment) →
          (ofParts package path name = ofParts otherPackage otherPath otherName
            ↔ packageSegments package ++ (path ++ [name])
              = packageSegments otherPackage ++ (otherPath ++ [otherName])) := by
  have all := isSegment_of_mem_append_package package legal
  have parts := segments_ofSegments (List.append_ne_nil_of_right_ne_nil _ (List.concat_ne_nil _ _)) all
  rw [ofParts_eq package legal]
  refine ⟨?_, parts, ?_, ofTypeName_text all, fun {otherPackage otherPath otherName} otherLegal => ?_⟩
  · show List.foldl join (ofPackage package) _ = _
    rw [ofPackage_eq, foldl_join all]
  · rw [bareName, parts, ← List.append_assoc, List.getLast?_concat]
    rfl
  · have otherAll := isSegment_of_mem_append_package otherPackage otherLegal
    have otherParts := segments_ofSegments (List.append_ne_nil_of_right_ne_nil _ (List.concat_ne_nil _ _)) otherAll
    rw [ofParts_eq otherPackage otherLegal]
    refine ⟨fun same => ?_, congrArg ofSegments⟩
    rw [← parts, same, otherParts]

/-- A type inside a message, in a package whose spelling has dots that separate nothing. -/
theorem ways_agree_shop :
    ["Order", "Line"].foldl join (ofParts ".shop..v1" [] "") = ofParts ".shop..v1" ["Order"] "Line"
      ∧ (ofParts ".shop..v1" ["Order"] "Line").segments = ["shop", "v1", "Order", "Line"]
      ∧ (ofParts ".shop..v1" ["Order"] "Line").bareName = "Line"
      ∧ ofTypeName (ofParts ".shop..v1" ["Order"] "Line").text = ofParts ".shop..v1" ["Order"] "Line"
      ∧ ofParts ".shop..v1" ["Order"] "Line" = ofParts "shop.v1.Order" [] "Line" := by
  have legal : ∀ segment ∈ ["Order"] ++ ["Line"], IsSegment segment := by decide
  have otherLegal : ∀ segment ∈ [] ++ ["Line"], IsSegment segment := by decide
  obtain ⟨made, parts, own, meant, same⟩ := ways_agree ".shop..v1" legal
  exact ⟨made, parts, own, meant, (same otherLegal).mpr (by decide)⟩

end FullName

/-! ### Names of declared types -/

def TypeNode.fullName : TypeNode → FullName
  | message node => node.fullName
  | enumeration node => node.fullName

/-- The names of the types around a type and of the type itself as their file has them, the outermost first. -/
def TypePlace.schemaNames (place : TypePlace) : List String :=
  place.around.map (·.schema.name) ++ [place.type.name]

/-- **The full name of a type is joined from the names on the way to it**, one after the other. -/
theorem MessageNode.fullName_of_mem_places (message : Schema.Message) :
    ∀ (scope : FullName) (types : Swift.TypeScope) (path : Path), ∀ place ∈ (declare scope types path message).places,
      place.type.fullName = place.schemaNames.foldl FullName.join scope := by
  induction message using Schema.Message.inductionOnNested with
  | step message below =>
    intro scope types path place among
    have own : (declare scope types path message).fullName = scope.join message.name := by
      cases message
      rfl
    rcases mem_places_iff.mp among with rfl | ⟨enumeration, isEnum, rfl⟩ | ⟨inner, isInner, further, inside, rfl⟩
    · show (declare scope types path message).fullName = scope.join (declare scope types path message).schema.name
      rw [own, schema_declare]
    · rw [enums_declare] at isEnum
      obtain ⟨position, schema, _, rfl⟩ := mem_mapIdx_iff.mp isEnum
      show (declare scope types path message).fullName.join schema.name
        = (scope.join (declare scope types path message).schema.name).join schema.name
      rw [own, schema_declare]
    · rw [messages_declare] at isInner
      obtain ⟨position, schema, found, rfl⟩ := mem_mapIdx_iff.mp isInner
      have nested := below schema (List.mem_of_getElem? found) _ _ _ further inside
      rw [own] at nested
      show further.type.fullName
        = further.schemaNames.foldl FullName.join (scope.join (declare scope types path message).schema.name)
      rw [schema_declare, nested]

/-- **The full name of a declared type has the segments of the package and the names on the way**, if these are
without dots and not empty. -/
theorem FileNode.fullName_of_mem_places {era : Era} {file : Schema.File} {place : TypePlace}
    (among : place ∈ (declare era file).places) (legal : ∀ name ∈ place.schemaNames, IsSegment name) :
    place.type.fullName = .ofSegments (packageSegments file.package ++ place.schemaNames) := by
  have joined : place.type.fullName = place.schemaNames.foldl FullName.join (.ofPackage file.package) := by
    rcases mem_places_iff.mp among with ⟨node, declared, inside⟩ | ⟨enumeration, declared, rfl⟩
    · obtain ⟨position, message, _, rfl⟩ := mem_mapIdx_iff.mp declared
      exact MessageNode.fullName_of_mem_places message _ _ _ place inside
    · obtain ⟨position, schema, _, rfl⟩ := mem_mapIdx_iff.mp declared
      simp only [TypeNode.fullName, TypePlace.schemaNames, TypeNode.name, EnumNode.declare, List.map_nil,
        List.nil_append, List.foldl_cons, List.foldl_nil]
  rw [joined, FullName.ofPackage_eq, FullName.foldl_join (isSegment_of_mem_append_package _ legal)]

end ProtoSwift
