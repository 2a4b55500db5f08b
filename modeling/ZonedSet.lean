import ZonedSet.Main
import ZonedSet.Session
import ZonedSet.Proofs.Report.Encoding
import ZonedSet.Proofs.Layout.EndToEnd
import ZonedSet.Proofs.Walk.Trace
import ZonedSet.Proofs.Walk.Scripted
import ZonedSet.Proofs.Walk.Validation
import ZonedSet.Proofs.Walk.Tiling
import ZonedSet.Proofs.Walk.Contribution
import ZonedSet.Proofs.Walk.Acceptance
import ZonedSet.Proofs.Opening.Device
import ZonedSet.Proofs.Opening.Assembling
import ZonedSet.Proofs.Layout.Translation
import ZonedSet.Proofs.Blocks.Transfer
import ZonedSet.Proofs.Blocks.FlatArray
import ZonedSet.Proofs.Blocks.Sharing
import ZonedSet.Proofs.Blocks.PastEnd
import ZonedSet.Proofs.Walk.Bounded
import ZonedSet.Proofs.Opening.Geometry
import ZonedSet.Proofs.Opening.Policy
import ZonedSet.Proofs.Opening.Mounted
import ZonedSet.Proofs.Signature.Sampling
import ZonedSet.Proofs.Signature.Ranking
import ZonedSet.Proofs.Opening.Precedence
import ZonedSet.Proofs.Layout.ZoneSearch
import ZonedSet.Proofs.Walk.Tables
import ZonedSet.Proofs.Opening.Reports
import ZonedSet.Proofs.Layout.Nesting
import ZonedSet.Proofs.Text.Utf8
import ZonedSet.Proofs.Text.Decimal
import ZonedSet.Proofs.Text.Blank
import ZonedSet.Proofs.Opening.Holding
import ZonedSet.Proofs.Blocks.Closing
import ZonedSet.Proofs.Mounts.Escapes
import ZonedSet.Proofs.Mounts.Written
import ZonedSet.Proofs.Opening.CacheZones
import ZonedSet.Proofs.Layout.ZoneNumbers
import ZonedSet.Proofs.Report.Reading
import ZonedSet.Proofs.Signature.Uberblocks
import ZonedSet.Proofs.Walk.Ends
import ZonedSet.Proofs.Opening.Summary
import ZonedSet.Proofs.Mounts.Decoding
import ZonedSet.Proofs.Mounts.Insertion
import ZonedSet.Proofs.Opening.PublishedSize
