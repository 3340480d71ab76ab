import ClientGen.Text.Quoted
import ClientGen.Text.Words
import ClientGen.Http
import ClientGen.Uri.Segment
import ClientGen.Json.Printer
import ClientGen.Json.Reader
import ClientGen.JavaScript.Profile
import ClientGen.Decimal.Nearest
import ClientGen.Configuration
import ClientGen.Summary
import ClientGen.Main
import ClientGen.Yaml.Printer
import ClientGen.Description.Decode
import ClientGen.Description.Encode
import ClientGen.Description.Read
import ClientGen.Generate
import ClientGen.Profile.Outline
import ClientGen.Proofs.OrderedMap
import ClientGen.Proofs.Tree.Growth
import ClientGen.Proofs.Tree.WellFormed
import ClientGen.Proofs.Tree.Path
import ClientGen.Proofs.Tree.Journal
import ClientGen.Proofs.Tree.Run
import ClientGen.Proofs.Tree.Placement
import ClientGen.Proofs.Tree.Landing
import ClientGen.Proofs.Tree.NodeUri
import ClientGen.Proofs.Tree.MediaTypes
import ClientGen.Proofs.Tree.Methods
import ClientGen.Proofs.Tree.Preorder
import ClientGen.Proofs.Tree.Ownership
import ClientGen.Proofs.Tree.Nesting
import ClientGen.Proofs.Tree.Faithful
import ClientGen.Proofs.Tree.Consistency
import ClientGen.Proofs.Tree.Reordering
import ClientGen.Proofs.Tree.Sequence
import ClientGen.Proofs.Tree.Records
import ClientGen.Proofs.Tree.Merging
import ClientGen.Proofs.Tree.FanOut
import ClientGen.Proofs.Uri.Renaming
import ClientGen.Proofs.Uri.Partition
import ClientGen.Proofs.Uri.Key
import ClientGen.Proofs.Uri.Placeholders
import ClientGen.Proofs.Tree.Traversal
import ClientGen.Proofs.Tree.Origin
import ClientGen.Proofs.Text.Words
import ClientGen.Proofs.Tree.Renaming
import ClientGen.Proofs.Tree.Numbering
import ClientGen.Proofs.Context
import ClientGen.Proofs.Erasure
import ClientGen.Proofs.Generate
import ClientGen.Proofs.JavaScript.Printed
import ClientGen.Proofs.JavaScript.Statements
import ClientGen.Proofs.Template.Meaning
import ClientGen.Proofs.Value
import ClientGen.Proofs.Value.Writing
import ClientGen.Proofs.View
import ClientGen.Proofs.JavaScript.Helper
import ClientGen.Proofs.JavaScript.Rendering
import ClientGen.Proofs.JavaScript.Client
import ClientGen.Proofs.Text.Underscore
import ClientGen.Proofs.JavaScript.Hygiene
import ClientGen.Proofs.JavaScript.Binding
import ClientGen.Proofs.JavaScript.Restored
import ClientGen.Proofs.JavaScript.Members
import ClientGen.Proofs.Json.Lexeme
import ClientGen.Proofs.Json.Spelling
import ClientGen.Proofs.Json.Fitting
import ClientGen.Proofs.Description.Records
import ClientGen.Proofs.Description.RoundTrip
import ClientGen.Proofs.JavaScript.Package
import ClientGen.Proofs.JavaScript.Comments
import ClientGen.Proofs.FileTree
import ClientGen.Proofs.CommandLine.Machine
import ClientGen.Proofs.CommandLine.Generate
import ClientGen.Proofs.Summary
import ClientGen.Proofs.Text.Lines
import ClientGen.Proofs.Text.Joined
import ClientGen.Proofs.JavaScript.CommentText
import ClientGen.Proofs.Helper.Set
import ClientGen.Proofs.JavaScript.PackageName
import ClientGen.Proofs.Precedence
