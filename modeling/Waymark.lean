import Waymark.Service
import Waymark.Shutdown
import Waymark.Main
import Waymark.Proofs.Route.Matching
import Waymark.Proofs.CompileCache
import Waymark.Proofs.Load.Order
import Waymark.Proofs.RoundTrip
import Waymark.Proofs.Route.Validation
import Waymark.Proofs.Load.Complete
import Waymark.Proofs.Injection
import Waymark.Proofs.Dispatch
import Waymark.Proofs.ReadBack
import Waymark.Proofs.Metrics
import Waymark.Proofs.Service.Run
import Waymark.Proofs.Sharing
import Waymark.Proofs.Service.Sharing
import Waymark.Proofs.Service.Accounting
import Waymark.Proofs.Explicit
import Waymark.Proofs.Load.Alike
import Waymark.Proofs.Service.History
import Waymark.Proofs.Isolation
import Waymark.Proofs.Stages
import Waymark.Proofs.Priority
import Waymark.Proofs.Extension
import Waymark.Proofs.Table.Writes
import Waymark.Proofs.EntityUrl
import Waymark.Proofs.Load.Origin
import Waymark.Proofs.Route.Literal
import Waymark.Proofs.Page
import Waymark.Proofs.Request.NormalForm
import Waymark.Proofs.Mounting
import Waymark.Proofs.Nameless
import Waymark.Proofs.Build.Refusal
import Waymark.Proofs.Build.Friendly
import Waymark.Proofs.CompileCache.Identity
import Waymark.Proofs.Config.Report
import Waymark.Proofs.Shutdown
import Waymark.Proofs.Rule.Cut
import Waymark.Proofs.Rule.Scan
import Waymark.Proofs.Request.ModuleForm
import Waymark.Proofs.Request.PathForms
import Waymark.Proofs.Request.QueryForms
