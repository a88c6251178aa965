import RemoteShell.Main
import RemoteShell.Pool
import RemoteShell.Proofs.Authorization
import RemoteShell.Proofs.Base64
import RemoteShell.Proofs.Cache.Expiry
import RemoteShell.Proofs.Cache.Recency
import RemoteShell.Proofs.Cache.Sharing
import RemoteShell.Proofs.Command.Environment
import RemoteShell.Proofs.Command.Overwriting
import RemoteShell.Proofs.Command.Powershell
import RemoteShell.Proofs.CommandLine.ExitStatus
import RemoteShell.Proofs.Duration.Human
import RemoteShell.Proofs.Duration.Timeout
import RemoteShell.Proofs.Fingerprint
import RemoteShell.Proofs.Job.Collecting
import RemoteShell.Proofs.Job.Destroying
import RemoteShell.Proofs.Job.Waiting
import RemoteShell.Proofs.Pipe.Fifo
import RemoteShell.Proofs.Pool.Policy
import RemoteShell.Proofs.Pool.Reuse
import RemoteShell.Proofs.Settings.Format.Json
import RemoteShell.Proofs.Settings.Lookup
import RemoteShell.Proofs.Settings.Precedence
import RemoteShell.Proofs.Settings.Record
import RemoteShell.Proofs.Settings.Secrets
import RemoteShell.Proofs.Shell.Calls
import RemoteShell.Proofs.Shell.Deadline
import RemoteShell.Proofs.Shell.Failing
import RemoteShell.Proofs.Shell.Order
import RemoteShell.Proofs.Shell.Polling
import RemoteShell.Proofs.Shell.Teardown
import RemoteShell.Proofs.Soap.ExitCode
import RemoteShell.Proofs.Soap.Renderings
import RemoteShell.Proofs.Soap.RequestTree
import RemoteShell.Proofs.Soap.Streams
import RemoteShell.Proofs.Target.Port
import RemoteShell.Proofs.Xml.Structure
