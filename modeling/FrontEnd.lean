import FrontEnd.Session
import FrontEnd.Settings.File
import FrontEnd.Symbol.Shared
import FrontEnd.Proofs.Cursor.Lookahead
import FrontEnd.Proofs.Header.Excerpt
import FrontEnd.Proofs.Header.Operation
import FrontEnd.Proofs.Lexeme.Numeral.Viable
import FrontEnd.Proofs.Scanner.Boundary
import FrontEnd.Proofs.Scanner.Comment
import FrontEnd.Proofs.Scanner.Extent
import FrontEnd.Proofs.Scanner.Faithful
import FrontEnd.Proofs.Scanner.Fault
import FrontEnd.Proofs.Scanner.Independence
import FrontEnd.Proofs.Scanner.Line
import FrontEnd.Proofs.Scanner.LineEnding
import FrontEnd.Proofs.Scanner.Load
import FrontEnd.Proofs.Scanner.Newline
import FrontEnd.Proofs.Scanner.Numeral
import FrontEnd.Proofs.Scanner.Position
import FrontEnd.Proofs.Scanner.Progress
import FrontEnd.Proofs.Scanner.Quoted
import FrontEnd.Proofs.Scanner.Replay
import FrontEnd.Proofs.Scanner.RoundTrip
import FrontEnd.Proofs.Scanner.Stable
import FrontEnd.Proofs.Scanner.Strings
import FrontEnd.Proofs.Scanner.Tiling
import FrontEnd.Proofs.Session.Accounting
import FrontEnd.Proofs.Session.Sinks
import FrontEnd.Proofs.Session.Tracing
import FrontEnd.Proofs.Symbol.Sharing
