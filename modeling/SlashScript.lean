import SlashScript.Main
import SlashScript.Proofs.Footprint
import SlashScript.Proofs.Simulation
import SlashScript.Proofs.Serving
import SlashScript.Proofs.Projections
import SlashScript.Proofs.Calls
import SlashScript.Proofs.Stopping
import SlashScript.Proofs.Isolation
import SlashScript.Proofs.Tolerance
import SlashScript.Proofs.Channel.Basic
import SlashScript.Proofs.Channel.Completion
import SlashScript.Proofs.Channel.Phases
import SlashScript.Proofs.Channel.Refinement
import SlashScript.Proofs.Channel.Termination
import SlashScript.Proofs.Course
import SlashScript.Proofs.Pipes
import SlashScript.Proofs.Channel.Outcomes
import SlashScript.Proofs.Channel.Matching
import SlashScript.Proofs.Channel.Lockstep
import SlashScript.Proofs.Boundary
import SlashScript.Proofs.ScopeModes
import SlashScript.Proofs.Requests
import SlashScript.Proofs.Books
import SlashScript.Proofs.Rounds
import SlashScript.Proofs.Cancellation
import SlashScript.Proofs.Batches
import SlashScript.Proofs.Grammar.Tallest
import SlashScript.Proofs.Blocks.Flattening
import SlashScript.Proofs.Causality
import SlashScript.Proofs.Succession
import SlashScript.Proofs.Literal.Quoted
import SlashScript.Proofs.Literal.Escaped
import SlashScript.Proofs.Wildcards
import SlashScript.Proofs.Embedding.Brackets
import SlashScript.Proofs.Quotients
import SlashScript.Proofs.Blocks.Sharing
import SlashScript.Proofs.Embedding.Listing
import SlashScript.Proofs.RoundTrip
import SlashScript.Proofs.Literal.Integer
import SlashScript.Proofs.Blocks.PhysicalLines
import SlashScript.Proofs.Blocks.Refusal
import SlashScript.Proofs.Sizes
import SlashScript.Proofs.Positions
import SlashScript.Proofs.Assignments
import SlashScript.Proofs.Arguments.Reading
import SlashScript.Proofs.Extremes
import SlashScript.Proofs.Literal.Transparent
import SlashScript.Proofs.Settings.Loading
import SlashScript.Proofs.Embedding.Siblings
import SlashScript.Proofs.Unrolling
import SlashScript.Proofs.Settings.Agreement
import SlashScript.Proofs.Logged
import SlashScript.Proofs.Rebuilding
import SlashScript.Proofs.Signals
