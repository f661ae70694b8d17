import IRLexer.Program
import IRLexer.Proofs.Tiling
import IRLexer.Proofs.Numeral
import IRLexer.Proofs.Translation
import IRLexer.Session
import IRLexer.Subject
import IRLexer.Proofs.WordMeaning
import IRLexer.Proofs.Separation
import IRLexer.Proofs.Layout
import IRLexer.Proofs.Tokenization
import IRLexer.Proofs.Interleaving
import IRLexer.Proofs.Scoping
import IRLexer.Proofs.Concatenation
import IRLexer.Proofs.Overwriting
import IRLexer.Proofs.Refusal
import IRLexer.Proofs.NumberKind
import IRLexer.Proofs.CommentErasure
import IRLexer.Proofs.Stepping
import IRLexer.Proofs.Progress
import IRLexer.Proofs.LineReading
import IRLexer.Proofs.NamedEntries
import IRLexer.Proofs.UnmetRequest
import IRLexer.Proofs.MessageHeading
import IRLexer.Interface
import IRLexer.Proofs.ScannerSession
