import RollCall.Chain.Simulated
import RollCall.Ledger.Refusing
import RollCall.Ledger.Shapes
import RollCall.Main
import RollCall.Network.Simulated
import RollCall.Report
import RollCall.Proofs.Collaborators
import RollCall.Proofs.Interactions
import RollCall.Proofs.Steps
import RollCall.Proofs.Absorbing
import RollCall.Proofs.Casting
import RollCall.Proofs.Handling
import RollCall.Proofs.Passes
import RollCall.Proofs.Runs
import RollCall.Proofs.InMemory
import RollCall.Proofs.Replaying
import RollCall.Proofs.Saving
import RollCall.Proofs.Voting
import RollCall.Proofs.Converging
import RollCall.Proofs.Finality
import RollCall.Proofs.Integrity
import RollCall.Proofs.Refusals
import RollCall.Proofs.Advising
import RollCall.Proofs.Wrapping
import RollCall.Proofs.Halting
import RollCall.Proofs.Masking
import RollCall.Proofs.Pages
import RollCall.Proofs.Performing
import RollCall.Proofs.Dating
import RollCall.Proofs.Inserts
import RollCall.Proofs.Cells
import RollCall.Proofs.Fetching
import RollCall.Proofs.Storing
import RollCall.Proofs.Tallying
import RollCall.Proofs.Resuming
import RollCall.Proofs.Retrying
import RollCall.Proofs.Inertia
import RollCall.Proofs.Stopping
import RollCall.Proofs.Closing
import RollCall.Proofs.Lookups
import RollCall.Proofs.Lexis
import RollCall.Proofs.Upserts
import RollCall.Proofs.Configuring
import RollCall.Proofs.Confining
import RollCall.Proofs.Commanding
import RollCall.Proofs.Printing
import RollCall.Proofs.Answering
import RollCall.Proofs.Naturals
import RollCall.Proofs.Regrouping
