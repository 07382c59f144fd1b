import UmlKotlin.Main
import UmlKotlin.Proofs.Kotlin.Constructor
import UmlKotlin.Proofs.Kotlin.Denotation
import UmlKotlin.Proofs.Kotlin.Planning
import UmlKotlin.Proofs.Uml.Hierarchy
import UmlKotlin.Proofs.Uml.Inverse
import UmlKotlin.Proofs.Xmi.Paths
import UmlKotlin.Proofs.Xmi.Typing
import UmlKotlin.Proofs.Uml.Change
import UmlKotlin.Proofs.Xmi.Annotation
import UmlKotlin.Proofs.Uml.Documentation
import UmlKotlin.Proofs.Xmi.Notes
import UmlKotlin.Proofs.Xmi.Comments
import UmlKotlin.Proofs.Xmi.Documentation
import UmlKotlin.Proofs.Kotlin.Bare
import UmlKotlin.Proofs.Kotlin.Layout
import UmlKotlin.Proofs.Kotlin.Confinement
import UmlKotlin.Proofs.Kotlin.Import
import UmlKotlin.Proofs.Uml.Ascent
import UmlKotlin.Proofs.Uml.Cycle
import UmlKotlin.Proofs.Uml.Deprecation
import UmlKotlin.Proofs.Kotlin.Letter
import UmlKotlin.Proofs.Kotlin.Grammar
import UmlKotlin.Proofs.Kotlin.Sanitizing
import UmlKotlin.Proofs.Xmi.Keyed
import UmlKotlin.Proofs.Workspace.Tree
import UmlKotlin.Proofs.Profile.Textual
import UmlKotlin.Proofs.Run.Writing
import UmlKotlin.Proofs.Run.Generation
import UmlKotlin.Proofs.Uml.Counterpart
import UmlKotlin.Proofs.Kotlin.Counterpart
import UmlKotlin.Proofs.Kotlin.Reordering
import UmlKotlin.Proofs.Kotlin.Extension
import UmlKotlin.Proofs.Xmi.Containers
import UmlKotlin.Proofs.Uml.Fallback
import UmlKotlin.Proofs.Uml.Role
import UmlKotlin.Proofs.Workspace.Path
import UmlKotlin.Proofs.Kotlin.SourcePath
import UmlKotlin.Proofs.Kotlin.Location
import UmlKotlin.Proofs.Workspace.Repetition
import UmlKotlin.Proofs.Run.Effect
import UmlKotlin.Proofs.Profile.Collections
import UmlKotlin.Proofs.Profile.Overriding
import UmlKotlin.Proofs.Kotlin.Lack
import UmlKotlin.Proofs.Run.Request
import UmlKotlin.Proofs.Run.Early
import UmlKotlin.Proofs.Kotlin.Binding
import UmlKotlin.Proofs.Kotlin.Comment
import UmlKotlin.Proofs.Kotlin.Literal
import UmlKotlin.Proofs.Xmi.Reach
import UmlKotlin.Proofs.Xmi.Multiplicity
