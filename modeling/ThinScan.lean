import ThinScan.Aggregation
import ThinScan.BatchReading
import ThinScan.Clients
import ThinScan.FullScan
import ThinScan.Holders
import ThinScan.Shelf
import ThinScan.Session.Run
import ThinScan.Proofs.TableOrder
import ThinScan.Proofs.Ledger
import ThinScan.Proofs.Custody
import ThinScan.Proofs.Moves
import ThinScan.Proofs.Upkeep
import ThinScan.Proofs.Progress
import ThinScan.Proofs.Delivery
import ThinScan.Proofs.Answers
import ThinScan.Proofs.InlineValues
import ThinScan.Proofs.Load
import ThinScan.Proofs.LoneScan
import ThinScan.Proofs.Agreement
import ThinScan.Proofs.RoundTrip
import ThinScan.Proofs.PercentCoding
import ThinScan.Proofs.RecordPath
import ThinScan.Proofs.Opening
import ThinScan.Proofs.Catalog
import ThinScan.Proofs.OneMap
import ThinScan.Proofs.Outcomes
import ThinScan.Proofs.Positions
import ThinScan.Proofs.Handles
import ThinScan.Proofs.Counting
import ThinScan.Proofs.Binding
import ThinScan.Proofs.SameStore
import ThinScan.Proofs.Fates
import ThinScan.Proofs.Settling
import ThinScan.Proofs.Outstanding
import ThinScan.Proofs.Footprint
import ThinScan.Proofs.BatchReads
import ThinScan.Proofs.Lanes
import ThinScan.Proofs.Separation
import ThinScan.Proofs.InlineFetches
import ThinScan.Proofs.Requests
import ThinScan.Proofs.RowLookups
import ThinScan.Proofs.SafeReading
import ThinScan.Proofs.Selecting
import ThinScan.Proofs.Trails
import ThinScan.Proofs.Resting
import ThinScan.Proofs.Pulling
import ThinScan.Proofs.Emission
import ThinScan.Proofs.LookAhead
import ThinScan.Proofs.Holdings
import ThinScan.Proofs.Unresolved
import ThinScan.Proofs.BucketLocation
import ThinScan.Proofs.AnonymousAccess
