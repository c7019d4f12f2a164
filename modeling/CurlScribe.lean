import CurlScribe.Command.Emit
import CurlScribe.Command.Parse
import CurlScribe.Generate.Basic
import CurlScribe.Proofs.Word.Outline
import CurlScribe.Proofs.Word.Quote
import CurlScribe.Proofs.Word.Joined
import CurlScribe.Proofs.Word.Stable
import CurlScribe.Proofs.Word.ReadBack
import CurlScribe.Proofs.Word.Margin
import CurlScribe.Proofs.Word.Unclosed
import CurlScribe.Proofs.Word.Letters
import CurlScribe.Proofs.Word.Verbatim
import CurlScribe.Proofs.Command.Line
import CurlScribe.Proofs.Number.Digits
import CurlScribe.Proofs.Number.Nearest
import CurlScribe.Proofs.Number.PlainText
import CurlScribe.Proofs.Json.Restore
import CurlScribe.Proofs.Request.Tidy
import CurlScribe.Proofs.Command.Meaning
import CurlScribe.Proofs.Command.Writable
import CurlScribe.Proofs.Command.Reading
import CurlScribe.Proofs.Command.Invariant
import CurlScribe.Proofs.Command.Request
import CurlScribe.Proofs.Web.Template
import CurlScribe.Proofs.Command.Parse
import CurlScribe.Proofs.Command.Spelling
import CurlScribe.Proofs.Command.Unusable
import CurlScribe.Proofs.Command.Margin
import CurlScribe.Proofs.Command.Unclosed
import CurlScribe.Proofs.Command.Address
import CurlScribe.Proofs.Command.RoundTrip
import CurlScribe.Proofs.Command.Tail
import CurlScribe.Proofs.Command.Reread
import CurlScribe.Proofs.Request.Joins
import CurlScribe.Proofs.Command.Kept
import CurlScribe.Proofs.Request.Cleaning
import CurlScribe.Proofs.Web.Address
import CurlScribe.Proofs.Request.Normal
import CurlScribe.Proofs.Json.ReadBack
import CurlScribe.Proofs.Request.ReadBack
import CurlScribe.Proofs.Request.Again
import CurlScribe.Proofs.Web.Percent
import CurlScribe.Proofs.Web.Path
import CurlScribe.Proofs.Web.Form
import CurlScribe.Proofs.Web.Punycode
import CurlScribe.Proofs.Web.Domain
import CurlScribe.Proofs.Web.NumericHost
import CurlScribe.Proofs.Web.Host
import CurlScribe.Proofs.Web.Written
import CurlScribe.Proofs.Command.Destination
import CurlScribe.Proofs.Command.Payload
import CurlScribe.Proofs.Generate.Target
import CurlScribe.Proofs.Generate.Checks
import CurlScribe.Proofs.Generate.Enabled
import CurlScribe.Proofs.Command.Layout
import CurlScribe.Proofs.Java.Name
import CurlScribe.Proofs.Java.Balance
import CurlScribe.Proofs.Test.Locals
import CurlScribe.Proofs.Test.Balance
import CurlScribe.Proofs.Pojo.Classes
import CurlScribe.Proofs.Generate.Balance
import CurlScribe.Proofs.Java.Declared
import CurlScribe.Proofs.Generate.Names
import CurlScribe.Proofs.Command.Order
import CurlScribe.Proofs.Web.Resource
import CurlScribe.Proofs.Web.Slot
import CurlScribe.Proofs.Request.LastWrite
import CurlScribe.Proofs.Json.Prune
import CurlScribe.Proofs.Request.Projection
import CurlScribe.Proofs.Request.History
import CurlScribe.Proofs.Request.Method
import CurlScribe.Proofs.Json.Remains
import CurlScribe.Proofs.Request.Tag
import CurlScribe.Proofs.Request.Settings
import CurlScribe.Proofs.Request.Body
import CurlScribe.Proofs.Java.Literal
import CurlScribe.Proofs.Java.Identifier
import CurlScribe.Proofs.Pojo.Placed
import CurlScribe.Proofs.Pojo.Sharing
import CurlScribe.Proofs.Pojo.Shadowing
import CurlScribe.Proofs.Pojo.Counts
import CurlScribe.Proofs.Pojo.Keys
import CurlScribe.Proofs.Pojo.Numbers
import CurlScribe.Proofs.Generate.Package
import CurlScribe.Proofs.Generate.Reload
import CurlScribe.Proofs.Maven.Markup
import CurlScribe.Proofs.Maven.Pom
