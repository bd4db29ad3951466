import GraphPattern.Text.Blank
import GraphPattern.Text.WordCase
import GraphPattern.Text.LetterCase
import GraphPattern.Text.Quoted
import GraphPattern.Number.Shortest
import GraphPattern.Value.Basic
import GraphPattern.Value.Equality
import GraphPattern.Value.Hashing
import GraphPattern.Value.Literal
import GraphPattern.Value.Writer
import GraphPattern.Value.Reader
import GraphPattern.Error
import GraphPattern.Term
import GraphPattern.Binding
import GraphPattern.Source.Enumeration
import GraphPattern.Expression.Dag
import GraphPattern.Expression.Recipe
import GraphPattern.Expression.Generations
import GraphPattern.Expression.Graph
import GraphPattern.Accessor
import GraphPattern.Matcher
import GraphPattern.JsonLd.Context
import GraphPattern.JsonLd.Expansion
import GraphPattern.JsonLd.Flatten
import GraphPattern.Checked
import GraphPattern.FaultPolicy
import GraphPattern.Traced
import GraphPattern.Log
import GraphPattern.Settings
import GraphPattern.Registration
import GraphPattern.Registry
import GraphPattern.Report
import GraphPattern.Run
import GraphPattern.Session
import GraphPattern.Proofs.Equality
import GraphPattern.Proofs.Meaning
import GraphPattern.Proofs.Following
import GraphPattern.Proofs.Listing
import GraphPattern.Proofs.Join
import GraphPattern.Proofs.Occurrence
import GraphPattern.Proofs.Representation
import GraphPattern.Proofs.Compilation
import GraphPattern.Proofs.Assignment
import GraphPattern.Proofs.Delivery
import GraphPattern.Proofs.Accounting
import GraphPattern.Proofs.GroundedPattern
import GraphPattern.Proofs.Layout
import GraphPattern.Proofs.Reordering
import GraphPattern.Proofs.PatternOrder
import GraphPattern.Proofs.Renaming
import GraphPattern.Proofs.RenamedPattern
import GraphPattern.Proofs.Transfer
import GraphPattern.Proofs.Growth
import GraphPattern.Proofs.Rearrangement
import GraphPattern.Proofs.Relabelling
import GraphPattern.Proofs.Mending
import GraphPattern.Proofs.History
import GraphPattern.Proofs.Normalization
import GraphPattern.Proofs.Catching
import GraphPattern.Proofs.Containment
import GraphPattern.Proofs.Regrouping
import GraphPattern.Proofs.Distribution
import GraphPattern.Proofs.Loosening
import GraphPattern.Proofs.Projection
import GraphPattern.Proofs.Multiplicity
import GraphPattern.Proofs.Schedule
import GraphPattern.Proofs.Variables
import GraphPattern.Proofs.Agreement
import GraphPattern.Proofs.Sharing
import GraphPattern.Proofs.Declaring
import GraphPattern.Proofs.Hashing
