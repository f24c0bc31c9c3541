import PropertyFiles.Text.Blank
import PropertyFiles.Text.Lines
import PropertyFiles.Text.Hex
import PropertyFiles.Text.CharRange
import PropertyFiles.Text.Printable
import PropertyFiles.Text.Word
import PropertyFiles.Text.Quoted
import PropertyFiles.Text.Raw
import PropertyFiles.Text.Terminal
import PropertyFiles.OrderedMap.Basic
import PropertyFiles.OrderedMap.Lemmas
import PropertyFiles.OrderedMap.Merge
import PropertyFiles.Key
import PropertyFiles.Kind
import PropertyFiles.Line
import PropertyFiles.Document
import PropertyFiles.Path
import PropertyFiles.FileTree
import PropertyFiles.Notice
import PropertyFiles.Store.Basic
import PropertyFiles.Store.Files
import PropertyFiles.Store.Configurations
import PropertyFiles.Pattern.Basic
import PropertyFiles.Pattern.Parser
import PropertyFiles.Pattern.Positions
import PropertyFiles.Pattern.Search
import PropertyFiles.Filter
import PropertyFiles.Session
import PropertyFiles.Listing.Plain
import PropertyFiles.Listing.Json
import PropertyFiles.Listing.Yaml.Implicit
import PropertyFiles.Listing.Yaml.Scalar
import PropertyFiles.Listing.Yaml.Mapping
import PropertyFiles.Command.Options
import PropertyFiles.Command.Basic
import PropertyFiles.Command.Run
import PropertyFiles.Main
import PropertyFiles.Proofs.Document.Reading
import PropertyFiles.Proofs.Document.RoundTrip
import PropertyFiles.Proofs.Path.Spelling
import PropertyFiles.Proofs.FileTree.Replacement
import PropertyFiles.Proofs.Store.RoundTrip
import PropertyFiles.Proofs.Store.Stopping
import PropertyFiles.Proofs.Store.FileState
import PropertyFiles.Proofs.Command.Words
import PropertyFiles.Proofs.Command.Execution
import PropertyFiles.Proofs.Command.Editing
import PropertyFiles.Proofs.Session.Stepwise
import PropertyFiles.Proofs.Session.Refusal
import PropertyFiles.Proofs.OrderedMap.Merging
import PropertyFiles.Proofs.Store.Merging
import PropertyFiles.Proofs.Session.Merging
import PropertyFiles.Proofs.Store.Configurations
import PropertyFiles.Proofs.Session.Configuring
import PropertyFiles.Proofs.Session.Undefined
import PropertyFiles.Proofs.Document.Writability
import PropertyFiles.Proofs.Store.Writability
import PropertyFiles.Proofs.Session.Savable
import PropertyFiles.Proofs.FileTree.Descent
import PropertyFiles.Proofs.Session.History
import PropertyFiles.Proofs.Command.Frame
import PropertyFiles.Proofs.Pattern.Backtracking
import PropertyFiles.Proofs.Pattern.Searching
import PropertyFiles.Proofs.Line.Grammar
import PropertyFiles.Proofs.Text.Splitting
import PropertyFiles.Proofs.Document.Entries
import PropertyFiles.Proofs.Store.Loading
import PropertyFiles.Proofs.Store.Reconfiguring
import PropertyFiles.Proofs.OrderedMap.Filtering
import PropertyFiles.Proofs.Store.Overwriting
import PropertyFiles.Proofs.Text.Endings
import PropertyFiles.Proofs.Store.Joining
import PropertyFiles.Proofs.Text.Units
import PropertyFiles.Proofs.Listing.Json
import PropertyFiles.Proofs.Listing.Plain
import PropertyFiles.Proofs.Store.Overlaying
import PropertyFiles.Proofs.Command.Listing
import PropertyFiles.Proofs.OrderedMap.Precedence
import PropertyFiles.Proofs.Listing.Yaml.Forms
import PropertyFiles.Proofs.Listing.Yaml.Resolving
import PropertyFiles.Proofs.Listing.Yaml.Folding
import PropertyFiles.Proofs.Listing.Yaml.Reading
import PropertyFiles.Proofs.Listing.Yaml.Entries
import PropertyFiles.Proofs.Command.Yaml
