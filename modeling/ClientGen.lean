import ClientGen.Main
import ClientGen.Proofs.Build.Capture
import ClientGen.Proofs.Code.Edits
import ClientGen.Proofs.Generation.Accepted
import ClientGen.Proofs.Naming.Distinct
import ClientGen.Proofs.Build.Requests
import ClientGen.Proofs.Build.SchemaClasses
import ClientGen.Proofs.Build.RequestClasses
import ClientGen.Proofs.Build.Hiding
import ClientGen.Proofs.Build.Constructors
import ClientGen.Proofs.Build.Defaults
import ClientGen.Proofs.Document.Accounting
import ClientGen.Proofs.Code.ScopeNames
import ClientGen.Proofs.Build.Openings
import ClientGen.Proofs.Build.Children
import ClientGen.Proofs.Build.RequestOrder
import ClientGen.Proofs.Output.Guarantees
import ClientGen.Proofs.CommandLine.Again
import ClientGen.Proofs.CSharp.Denotation
import ClientGen.Proofs.CSharp.Values
import ClientGen.Proofs.CSharp.Refusal
import ClientGen.Proofs.CSharp.Summary
import ClientGen.Proofs.Build.Locations
import ClientGen.Proofs.Generation.Grouping
import ClientGen.Proofs.Naming.Casing
import ClientGen.Proofs.Naming.Safe
import ClientGen.Proofs.Naming.Order
import ClientGen.Proofs.Generation.Namespace
import ClientGen.Proofs.Code.Fallback
import ClientGen.Proofs.Build.Search
