import DefectGate.Main
import DefectGate.Proofs.Capture.Wholeness
import DefectGate.Proofs.Catalogue.History
import DefectGate.Proofs.Catalogue.Placement
import DefectGate.Proofs.Gate.Command
import DefectGate.Proofs.Invocation.Forwarding
import DefectGate.Proofs.Log.Location
import DefectGate.Proofs.Log.Replacement
import DefectGate.Proofs.Markers.RawStream
import DefectGate.Proofs.Markers.SummaryLine
import DefectGate.Proofs.Messages.Quoting
import DefectGate.Proofs.Run.Consoles
import DefectGate.Proofs.Run.Staging
import DefectGate.Proofs.Run.Targets
import DefectGate.Proofs.Settings.Layers
import DefectGate.Proofs.Summary.Accord
import DefectGate.Proofs.Summary.RoundTrip
import DefectGate.Proofs.Transcript.Linewise
import DefectGate.Proofs.Transcript.Replay
