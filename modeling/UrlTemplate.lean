import UrlTemplate.Main
import UrlTemplate.Proofs.Transform.Idempotence
import UrlTemplate.Proofs.Transform.Recovery
import UrlTemplate.Proofs.Transform.Repetition
import UrlTemplate.Proofs.Transform.Filters
import UrlTemplate.Proofs.Transform.Literal
import UrlTemplate.Proofs.Apply.Canonical
import UrlTemplate.Proofs.Apply.Provenance
import UrlTemplate.Proofs.Apply.Redaction
import UrlTemplate.Proofs.Config.Disabling
import UrlTemplate.Proofs.Apply.Steps
import UrlTemplate.Proofs.CommandLine.Alone
import UrlTemplate.Proofs.CommandLine.Validation
import UrlTemplate.Proofs.Pattern.Rules
import UrlTemplate.Proofs.Apply.NameLists
import UrlTemplate.Proofs.Transform.FirstRule
import UrlTemplate.Proofs.Url.Respelling
import UrlTemplate.Proofs.Pattern.Faults
import UrlTemplate.Proofs.Pattern.Verbatim
import UrlTemplate.Proofs.Config.Precedence
import UrlTemplate.Proofs.Config.Validity
import UrlTemplate.Proofs.Sorting
import UrlTemplate.Proofs.Url.Entries
import UrlTemplate.Proofs.Scan.Positions
import UrlTemplate.Proofs.Listing
