import ScriptedRays.Number.Positional
import ScriptedRays.Script.Display
import ScriptedRays.Script.Equality
import ScriptedRays.Device.Selection
import ScriptedRays.Registry.Basic
import ScriptedRays.Request.Geometry
import ScriptedRays.Request.Trace
import ScriptedRays.Session.Global
import ScriptedRays.Toml.Document
import ScriptedRays.Config.Load
import ScriptedRays.Launch.Basic
import ScriptedRays.Main
import ScriptedRays.Proofs.Arena
import ScriptedRays.Proofs.Mesh
import ScriptedRays.Proofs.Checks
import ScriptedRays.Proofs.Options
import ScriptedRays.Proofs.Ledger
import ScriptedRays.Proofs.Account
import ScriptedRays.Proofs.Reading
import ScriptedRays.Proofs.Renderer
import ScriptedRays.Proofs.Answer
import ScriptedRays.Proofs.Action
import ScriptedRays.Proofs.Agreement
import ScriptedRays.Proofs.Forwarding
import ScriptedRays.Proofs.Failure
import ScriptedRays.Proofs.Teardown
import ScriptedRays.Proofs.Wrapper
import ScriptedRays.Proofs.Denotation
import ScriptedRays.Proofs.Change
import ScriptedRays.Proofs.Lifetime
import ScriptedRays.Proofs.Ids
import ScriptedRays.Proofs.Snapshot
import ScriptedRays.Proofs.LastWrite
import ScriptedRays.Proofs.Likeness
import ScriptedRays.Proofs.Indistinct
import ScriptedRays.Proofs.Refinement
import ScriptedRays.Proofs.Shelves
import ScriptedRays.Proofs.Forged
import ScriptedRays.Proofs.Diagnostics
import ScriptedRays.Proofs.Limits
import ScriptedRays.Proofs.Batch
import ScriptedRays.Proofs.Dormant
import ScriptedRays.Proofs.Double
import ScriptedRays.Proofs.Single
import ScriptedRays.Proofs.Transform
import ScriptedRays.Proofs.Wholeness
import ScriptedRays.Proofs.Destruction
import ScriptedRays.Proofs.Tracing
import ScriptedRays.Proofs.Truncation
import ScriptedRays.Proofs.Recognition
import ScriptedRays.Proofs.Equality
import ScriptedRays.Proofs.Insertion
import ScriptedRays.Proofs.Encoding
import ScriptedRays.Proofs.Precedence
import ScriptedRays.Proofs.Naming
import ScriptedRays.Proofs.Scene
