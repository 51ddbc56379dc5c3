import Announce.Command.FileTree
import Announce.Json.Numeral
import Announce.Main
import Announce.Payload.Draft
import Announce.Proofs.Layout
import Announce.Proofs.Scan
import Announce.Proofs.Reading
import Announce.Proofs.Cursor
import Announce.Proofs.Blocks
import Announce.Proofs.Digits
import Announce.Proofs.NeighborList
import Announce.Proofs.Extending
import Announce.Proofs.Listing
import Announce.Proofs.Writing
import Announce.Proofs.Cut
import Announce.Proofs.Joining
import Announce.Proofs.Overwriting
import Announce.Proofs.Influence
import Announce.Proofs.Normal
import Announce.Proofs.HexText
import Announce.Proofs.Tolerant
import Announce.Proofs.Canonical
import Announce.Proofs.Ordering
import Announce.Proofs.Ending
import Announce.Proofs.CommandLine
import Announce.Proofs.Items
import Announce.Proofs.PayloadSource
import Announce.Proofs.LogChoice
import Announce.Proofs.EncoderEvents
import Announce.Proofs.ScanEvents
import Announce.Proofs.Limits
import Announce.Proofs.Strictness
import Announce.Proofs.Spelling
import Announce.Proofs.PayloadText
import Announce.Proofs.ReadBack
import Announce.Proofs.JsonText
import Announce.Proofs.Lines
import Announce.Proofs.Printed
import Announce.Proofs.PrintedListing
import Announce.Proofs.WrittenCommand
import Announce.Proofs.Indexing
