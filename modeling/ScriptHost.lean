import ScriptHost.Main
import ScriptHost.Proofs.Arguments
import ScriptHost.Proofs.Bill
import ScriptHost.Proofs.Ceilings
import ScriptHost.Proofs.CommandRun
import ScriptHost.Proofs.Confinement
import ScriptHost.Proofs.ConsoleCalls
import ScriptHost.Proofs.CutOff
import ScriptHost.Proofs.Cycles
import ScriptHost.Proofs.Denial
import ScriptHost.Proofs.Dispatch
import ScriptHost.Proofs.Expressions
import ScriptHost.Proofs.Forwarding
import ScriptHost.Proofs.HostFailures
import ScriptHost.Proofs.Image
import ScriptHost.Proofs.Layers
import ScriptHost.Proofs.Lifecycle
import ScriptHost.Proofs.NamespaceReads
import ScriptHost.Proofs.References
import ScriptHost.Proofs.Rules
import ScriptHost.Proofs.Sharing
import ScriptHost.Proofs.StrictReading
import ScriptHost.Proofs.Surroundings
import ScriptHost.Proofs.Transcript
import ScriptHost.Proofs.Transpilation
import ScriptHost.Proofs.Truncation
import ScriptHost.Proofs.Unseen
