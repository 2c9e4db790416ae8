import SceneScript.CommandLine
import SceneScript.Decompilation
import SceneScript.DialogueEntry
import SceneScript.Edit
import SceneScript.Listing
import SceneScript.Main
import SceneScript.NameList
import SceneScript.Project.Assembly
import SceneScript.Project.Disassembly
import SceneScript.Rendering
import SceneScript.SampleCatalog
import SceneScript.ScriptLayout
import SceneScript.Proofs.Holding
import SceneScript.Proofs.Texts
import SceneScript.Proofs.BlockTable
import SceneScript.Proofs.Consistency
import SceneScript.Proofs.EditRuns
import SceneScript.Proofs.Jumps
import SceneScript.Proofs.ImportOrder
import SceneScript.Proofs.Building
import SceneScript.Proofs.Names
import SceneScript.Proofs.RoundTrip
import SceneScript.Proofs.Tiling
import SceneScript.Proofs.BlockNames
import SceneScript.Proofs.LineKinds
import SceneScript.Proofs.EditFrame
import SceneScript.Proofs.Alignment
import SceneScript.Proofs.EditFaults
import SceneScript.Proofs.Templates
import SceneScript.Proofs.LiveText
import SceneScript.Proofs.ReadBack
import SceneScript.Proofs.ShownText
import SceneScript.Proofs.Reverting
import SceneScript.Proofs.ImportKeys
import SceneScript.Proofs.Unedited
import SceneScript.Proofs.Locality
import SceneScript.Proofs.SameLength
import SceneScript.Proofs.Listings
import SceneScript.Proofs.Rules
import SceneScript.Proofs.RenderFaults
import SceneScript.Proofs.SpokenLines
import SceneScript.Proofs.Truncation
import SceneScript.Proofs.Atomicity
import SceneScript.Proofs.CatalogFile
import SceneScript.Proofs.Reimport
import SceneScript.Proofs.CutText
import SceneScript.Proofs.Capping
import SceneScript.Proofs.LineBreaks
import SceneScript.Proofs.LinePlaces
import SceneScript.Proofs.IllegalOperands
import SceneScript.Proofs.ConditionTerms
import SceneScript.Proofs.BareTerms
import SceneScript.Proofs.RawForm
import SceneScript.Proofs.NameProbe
import SceneScript.Proofs.NameLists
import SceneScript.Proofs.Trailers
import SceneScript.Proofs.ShortCodes
