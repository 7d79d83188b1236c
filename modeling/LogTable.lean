import LogTable.Main
import LogTable.Proofs.Convergence
import LogTable.Proofs.Edits
import LogTable.Proofs.Following
import LogTable.Proofs.Notices
import LogTable.Proofs.Tailing
import LogTable.Proofs.Stability
import LogTable.Proofs.Reloading
import LogTable.Proofs.Counting
import LogTable.Proofs.Failing
import LogTable.Proofs.Overtaking
import LogTable.Proofs.Rotation
import LogTable.Proofs.Coloring
import LogTable.Proofs.Columns
import LogTable.Proofs.DecodedLines
import LogTable.Proofs.Conditions
import LogTable.Proofs.Loading
import LogTable.Proofs.Malformed
import LogTable.Proofs.Influence
import LogTable.Proofs.Paging
import LogTable.Proofs.ColorSpelling
import LogTable.Proofs.Touching
import LogTable.Proofs.Revision
import LogTable.Proofs.PlainLines
import LogTable.Proofs.ColumnWidths
