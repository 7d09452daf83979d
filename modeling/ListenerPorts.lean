import ListenerPorts.Assigner.Session
import ListenerPorts.Files.Folder
import ListenerPorts.Main
import ListenerPorts.Proofs.Accepting
import ListenerPorts.Proofs.Answering
import ListenerPorts.Proofs.Carrying
import ListenerPorts.Proofs.Executing
import ListenerPorts.Proofs.Freeing
import ListenerPorts.Proofs.HandingOut
import ListenerPorts.Proofs.History
import ListenerPorts.Proofs.Ignoring
import ListenerPorts.Proofs.Lockstep
import ListenerPorts.Proofs.NormalForm
import ListenerPorts.Proofs.Outcomes
import ListenerPorts.Proofs.Overriding
import ListenerPorts.Proofs.Precedence
import ListenerPorts.Proofs.Ranges
import ListenerPorts.Proofs.Rearranging
import ListenerPorts.Proofs.Registering
import ListenerPorts.Proofs.Repeating
import ListenerPorts.Proofs.Reporting
import ListenerPorts.Proofs.Resolving
import ListenerPorts.Proofs.Sockets
