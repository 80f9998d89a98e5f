import SolidScene.Main
import SolidScene.Node.Codec
import SolidScene.Files.Disk
import SolidScene.Proofs.Scene.Pruning
import SolidScene.Proofs.Scene.Aside
import SolidScene.Proofs.Scene.Cloning
import SolidScene.Proofs.Scene.Refusal
import SolidScene.Proofs.Scene.Identity
import SolidScene.Proofs.Document.Mounting
import SolidScene.Proofs.Source.Confinement
import SolidScene.Proofs.Source.Sizes
import SolidScene.Proofs.Source.Literal
import SolidScene.Proofs.Source.Spelling
import SolidScene.Proofs.Source.Numerals
import SolidScene.Proofs.Scene.Forest
import SolidScene.Proofs.Scene.Contract
import SolidScene.Proofs.Scene.Coverage
import SolidScene.Proofs.Scene.Finiteness
import SolidScene.Proofs.Document.Calls
import SolidScene.Proofs.Files.Store
import SolidScene.Proofs.Files.Commit
import SolidScene.Proofs.Node.Fields
import SolidScene.Proofs.Node.RoundTrip
import SolidScene.Proofs.Props.Repetition
import SolidScene.Proofs.Props.Naming
import SolidScene.Proofs.Props.Merging
import SolidScene.Proofs.Document.Grammar
import SolidScene.Proofs.Source.Paragraphs
import SolidScene.Proofs.Scene.Blanks
import SolidScene.Proofs.Scene.Undoing
import SolidScene.Proofs.Report.Reading
import SolidScene.Proofs.Scene.Reordering
import SolidScene.Proofs.Source.Rows
