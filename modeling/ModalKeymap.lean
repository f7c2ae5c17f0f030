import ModalKeymap.Bindings.Value
import ModalKeymap.Json.Reader
import ModalKeymap.Json.Value
import ModalKeymap.Main
import ModalKeymap.Mode
import ModalKeymap.Proofs.Bindings
import ModalKeymap.Replay
import ModalKeymap.Text.ShellWord
import ModalKeymap.Validation.Calls
import ModalKeymap.Proofs.LayerGroups
import ModalKeymap.Proofs.Acceptance
import ModalKeymap.Proofs.Steering
import ModalKeymap.Proofs.Exclusion
import ModalKeymap.Proofs.Reading
import ModalKeymap.Proofs.ModalReading
import ModalKeymap.Proofs.Overlap
import ModalKeymap.Proofs.Ambiguity
import ModalKeymap.Proofs.CommandPaths
import ModalKeymap.Proofs.Layout
import ModalKeymap.Proofs.Refusal
import ModalKeymap.Proofs.Recovery
import ModalKeymap.Proofs.DocumentText
import ModalKeymap.Proofs.Replacement
import ModalKeymap.Proofs.VariableUse
import ModalKeymap.Proofs.ExtendedRules
import ModalKeymap.Proofs.Extension
import ModalKeymap.Proofs.FlagNames
import ModalKeymap.Proofs.NestedEntry
import ModalKeymap.Proofs.SessionLength
import ModalKeymap.Proofs.LayerValues
import ModalKeymap.Proofs.LayerTables
import ModalKeymap.Proofs.ChordReading
import ModalKeymap.Proofs.ChordText
import ModalKeymap.Proofs.Reordering
import ModalKeymap.Proofs.UserVariables
import ModalKeymap.Proofs.LoneNames
import ModalKeymap.Proofs.ShellWords
import ModalKeymap.Proofs.WrittenLayers
