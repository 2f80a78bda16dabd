import SceneCode.BasicBlock
import SceneCode.Main
import SceneCode.OperandStack.Workbench
import SceneCode.Proofs.Faults
import SceneCode.Proofs.Output
import SceneCode.Proofs.Reference
import SceneCode.Proofs.Filing
import SceneCode.Proofs.Layout
import SceneCode.Proofs.FixedWidth
import SceneCode.Proofs.Erasure
import SceneCode.Proofs.StoreMachine
import SceneCode.Proofs.StraightLine
import SceneCode.Proofs.Stream
import SceneCode.Proofs.Isolation
import SceneCode.Proofs.Arguments
import SceneCode.Proofs.History
import SceneCode.Proofs.Reads
import SceneCode.Proofs.Workbench
import SceneCode.Proofs.StackEffect
import SceneCode.Proofs.Literal
import SceneCode.Proofs.SlotNames
import SceneCode.Proofs.Origin
import SceneCode.Proofs.Unambiguity
import SceneCode.Proofs.Acceptance
import SceneCode.Proofs.Lines
import SceneCode.Proofs.Representation
import SceneCode.Proofs.TextField
import SceneCode.Proofs.Symbols
import SceneCode.Proofs.Labels
import SceneCode.Proofs.OutputOrder
import SceneCode.Proofs.Ownership
import SceneCode.Proofs.SingleUse
import SceneCode.Proofs.CommandLine
