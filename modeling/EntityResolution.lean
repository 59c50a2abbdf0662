import EntityResolution.Main
import EntityResolution.Ranking.Shortlist
import EntityResolution.Text.Quoted
import EntityResolution.Proofs.Index.Buckets
import EntityResolution.Proofs.Index.Lockstep
import EntityResolution.Proofs.Index.Batch
import EntityResolution.Proofs.Index.Scan
import EntityResolution.Proofs.Index.Ties
import EntityResolution.Proofs.Resolver.Resolve
import EntityResolution.Proofs.Session.Basic
import EntityResolution.Proofs.Session.Answers
import EntityResolution.Proofs.Text.Hex
import EntityResolution.Proofs.Text.Utf8
import EntityResolution.Proofs.Json.Beginning
import EntityResolution.Proofs.Json.RoundTrip
import EntityResolution.Proofs.Record.RoundTrip
import EntityResolution.Proofs.FileTree.Replace
import EntityResolution.Proofs.Index.Restore
import EntityResolution.Proofs.Store.RoundTrip
import EntityResolution.Proofs.Session.Persistence
import EntityResolution.Proofs.Index.Counts
import EntityResolution.Proofs.Index.Alike
import EntityResolution.Proofs.Session.Changes
import EntityResolution.Proofs.Session.Links
import EntityResolution.Proofs.SmallSet.Refinement
import EntityResolution.Proofs.FileTree.Frame
import EntityResolution.Proofs.FileTree.Directories
import EntityResolution.Proofs.Store.Replacement
import EntityResolution.Proofs.Index.Meaning
import EntityResolution.Proofs.Session.Origins
import EntityResolution.Proofs.Session.Clients
import EntityResolution.Proofs.CommandLine.Compact
import EntityResolution.Proofs.Identifier.Notation
import EntityResolution.Proofs.Record.Reading
import EntityResolution.Proofs.Record.Truncation
import EntityResolution.Proofs.Session.Loading
import EntityResolution.Proofs.Session.Merging
import EntityResolution.Proofs.Session.Refusals
import EntityResolution.Proofs.Session.Stubs
import EntityResolution.Proofs.CommandLine.Normal
import EntityResolution.Proofs.Ranking.Sorting
import EntityResolution.Proofs.Ranking.Heap
import EntityResolution.Proofs.Record.Joining
import EntityResolution.Proofs.Record.Device
import EntityResolution.Proofs.Session.Overview
import EntityResolution.Proofs.Store.Leftover
import EntityResolution.Proofs.SmallSet.InPlace
import EntityResolution.Proofs.CommandLine.Variable
import EntityResolution.Proofs.Toml.Document
import EntityResolution.Proofs.Settings.RoundTrip
