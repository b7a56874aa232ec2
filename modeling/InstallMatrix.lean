import InstallMatrix.Proofs.Run.Cancellation
import InstallMatrix.Proofs.Run.Findings
import InstallMatrix.Proofs.Run.Verdict
import InstallMatrix.Proofs.Run.Isolation
import InstallMatrix.Proofs.Run.Execution
import InstallMatrix.Proofs.Catalog.Label
import InstallMatrix.Proofs.Engine.Builds
import InstallMatrix.Proofs.Engine.Containers
import InstallMatrix.Command.Scripted
import InstallMatrix.Data.Edit
import InstallMatrix.Data.JsonReader
import InstallMatrix.Main
import InstallMatrix.Run.Alone
import InstallMatrix.Proofs.Environment.Rendering
import InstallMatrix.Proofs.Environment.Fingerprint
import InstallMatrix.Proofs.Engine.Tracking
import InstallMatrix.Proofs.Run.Permits
import InstallMatrix.Proofs.Archive.Name
import InstallMatrix.Proofs.Run.Images
import InstallMatrix.Proofs.Run.Recording
import InstallMatrix.Proofs.Report.Reading
import InstallMatrix.Proofs.Archive.Directory
import InstallMatrix.Proofs.Catalog.Lookup
import InstallMatrix.Proofs.Engine.BuildOutput
import InstallMatrix.Proofs.Engine.Dispatch
import InstallMatrix.Proofs.Install.Home
import InstallMatrix.Proofs.Engine.Volume
import InstallMatrix.Proofs.Environment.Context
import InstallMatrix.Proofs.Engine.Detection
import InstallMatrix.Proofs.Results.Aggregation
