import ProtoSwift.Main
import ProtoSwift.Proofs.Field.Planning
import ProtoSwift.Proofs.Field.Sites
import ProtoSwift.Symbol.Listing
import ProtoSwift.Proofs.Field.Presence
import ProtoSwift.Proofs.Request.Reporting
import ProtoSwift.Proofs.Decl.Members
import ProtoSwift.Proofs.Requirement.Closure
import ProtoSwift.Proofs.Requirement.Initialization
import ProtoSwift.Proofs.Requirement.Chain
import ProtoSwift.Proofs.Symbol.Service
import ProtoSwift.Proofs.Request.FileOrder
import ProtoSwift.Proofs.Symbol.Place
import ProtoSwift.Proofs.Symbol.Numbering
import ProtoSwift.Proofs.Symbol.Listing
import ProtoSwift.Proofs.Decl.Sections
import ProtoSwift.Proofs.Decl.Layout
import ProtoSwift.Proofs.Decl.MemberClashes
import ProtoSwift.Proofs.Request.MapEntries
import ProtoSwift.Proofs.Decl.Containment
import ProtoSwift.Proofs.Request.Independence
import ProtoSwift.Proofs.Request.Bytes
import ProtoSwift.Proofs.Requirement.Search
import ProtoSwift.Proofs.Requirement.ReferenceGraph
import ProtoSwift.Proofs.Swift.CaseNames
import ProtoSwift.Proofs.Text.EscapeGrammar
import ProtoSwift.Proofs.Text.EscapedBytes
import ProtoSwift.Proofs.Field.DeclaredDefaults
import ProtoSwift.Proofs.Decl.EnumNumbers
import ProtoSwift.Proofs.Decl.EnumNames
import ProtoSwift.Proofs.Field.Maps
import ProtoSwift.Proofs.Symbol.TypeNames
import ProtoSwift.Proofs.Request.Parameter
import ProtoSwift.Proofs.Symbol.Elements
import ProtoSwift.Proofs.Swift.CommentLines
import ProtoSwift.Proofs.Text.ShoutySnake
import ProtoSwift.Proofs.Swift.CaseWords
import ProtoSwift.Proofs.Request.DeclarationComments
import ProtoSwift.Proofs.Text.Printing
import ProtoSwift.Proofs.Decl.Indentation
import ProtoSwift.Proofs.Symbol.FullNames
import ProtoSwift.Proofs.Request.SchemaNames
import ProtoSwift.Proofs.Decl.LegalNames
import ProtoSwift.Proofs.Swift.CommentReading
