import HtmlTemplate.Main
import HtmlTemplate.Proofs.Agreement
import HtmlTemplate.Proofs.AllOrNothing
import HtmlTemplate.Proofs.Binary.Widening
import HtmlTemplate.Proofs.CountNumerals
import HtmlTemplate.Proofs.DocumentOrder
import HtmlTemplate.Proofs.Equality
import HtmlTemplate.Proofs.Faults
import HtmlTemplate.Proofs.Injection
import HtmlTemplate.Proofs.LastWrite
import HtmlTemplate.Proofs.Shape
import HtmlTemplate.Proofs.Stability
import HtmlTemplate.Proofs.Streaming
import HtmlTemplate.Proofs.TextRoundTrip
import HtmlTemplate.Proofs.TrustBoundary
import HtmlTemplate.Proofs.Unescaping
import HtmlTemplate.Proofs.UserText
import HtmlTemplate.Session
import HtmlTemplate.ValueJson
