import PathRouter.Expectation
import PathRouter.Main
import PathRouter.Router.Operation
import PathRouter.Proofs.Router.Scan
import PathRouter.Proofs.Table.Writing
import PathRouter.Proofs.Router.Check
import PathRouter.Proofs.Router.Reachable
import PathRouter.Proofs.Router.Snapshot
import PathRouter.Proofs.Router.Replacement
import PathRouter.Proofs.Compiler.Correctness
import PathRouter.Proofs.Pattern.Spelling
import PathRouter.Proofs.Pattern.Writing
import PathRouter.Proofs.Arguments.Merging
import PathRouter.Proofs.Router.Arguments
import PathRouter.Proofs.Compiler.Groups
import PathRouter.Proofs.Regex.Mirroring
import PathRouter.Proofs.Regex.Enclosing
import PathRouter.Proofs.Compiler.Assembly
import PathRouter.Proofs.Compiler.Explanation
import PathRouter.Proofs.Router.Locality
import PathRouter.Proofs.Compiler.Limits
import PathRouter.Proofs.Configuration.Limits
import PathRouter.Proofs.Json.Texts
import PathRouter.Proofs.Text.Encoding
import PathRouter.Proofs.Regex.Limits
import PathRouter.Proofs.Json.Limits
import PathRouter.Proofs.Toml.Limits
import PathRouter.Proofs.Configuration.Files
import PathRouter.Proofs.Toml.Tables
import PathRouter.Proofs.Pattern.Faults
import PathRouter.Proofs.Target.Writing
import PathRouter.Proofs.Compiler.Rendering
import PathRouter.Proofs.Target.Arrowless
import PathRouter.Proofs.Compiler.Defaults
import PathRouter.Proofs.Router.Registration
import PathRouter.Proofs.Table.Updating
import PathRouter.Proofs.Target.Defaults
import PathRouter.Proofs.CommandLine.ImportStrings
import PathRouter.Proofs.CommandLine.Resolution
import PathRouter.Proofs.CommandLine.RouteTable
