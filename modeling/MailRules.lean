import MailRules.Concurrent
import MailRules.Filter
import MailRules.Fixture.Reader
import MailRules.Pattern.Shape
import MailRules.Proofs.Linearization
import MailRules.Proofs.Session
import MailRules.Proofs.Interpretation
import MailRules.Proofs.Tracing
import MailRules.Proofs.Accounting
import MailRules.Proofs.Grammar
import MailRules.Proofs.Scalars
import MailRules.Proofs.Writes
import MailRules.Proofs.Filtering
import MailRules.Proofs.Concatenation
import MailRules.Proofs.NormalForm
import MailRules.Proofs.Progress
import MailRules.Proofs.Wildcard
import MailRules.Proofs.Rewriting
import MailRules.Proofs.Effects
import MailRules.Proofs.Exchange
import MailRules.Proofs.Inversion
import MailRules.Proofs.CleanPaths
import MailRules.Proofs.Conversion
import MailRules.Proofs.Legality
import MailRules.Proofs.ElementLosses
import MailRules.Proofs.Absence
import MailRules.Proofs.Outline
import MailRules.Proofs.Verdicts
