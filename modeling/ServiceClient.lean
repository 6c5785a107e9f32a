import ServiceClient.Association
import ServiceClient.BodyWriter
import ServiceClient.Bytes
import ServiceClient.Cbor.Read
import ServiceClient.Cbor.Write
import ServiceClient.Client
import ServiceClient.Document
import ServiceClient.Encoding
import ServiceClient.Environment
import ServiceClient.Failure
import ServiceClient.Http.Form
import ServiceClient.Http.Headers
import ServiceClient.Http.HostName
import ServiceClient.Http.Query
import ServiceClient.Http.Request
import ServiceClient.Http.Response
import ServiceClient.Http.Transport
import ServiceClient.Http.Url
import ServiceClient.Ion.Object
import ServiceClient.Ion.ReadBinary
import ServiceClient.Ion.ReadText
import ServiceClient.Ion.WriteBinary
import ServiceClient.Ion.WriteText
import ServiceClient.Json.Print
import ServiceClient.Json.Read
import ServiceClient.Kms
import ServiceClient.Log
import ServiceClient.Log.Line
import ServiceClient.Log.ShortName
import ServiceClient.Log.Thresholds
import ServiceClient.Number.Decimal
import ServiceClient.Number.Double
import ServiceClient.Number.Shortest
import ServiceClient.Profiles
import ServiceClient.Proofs.Acceptance
import ServiceClient.Proofs.AddressText
import ServiceClient.Proofs.AnnouncedBodies
import ServiceClient.Proofs.Areas
import ServiceClient.Proofs.Base64
import ServiceClient.Proofs.Base64Spellings
import ServiceClient.Proofs.BindingOrder
import ServiceClient.Proofs.BurstErrors
import ServiceClient.Proofs.Calendar
import ServiceClient.Proofs.CborReading
import ServiceClient.Proofs.CborRoundTrip
import ServiceClient.Proofs.CborWritten
import ServiceClient.Proofs.ContentLength
import ServiceClient.Proofs.DisplayedValues
import ServiceClient.Proofs.DnsEndpoint
import ServiceClient.Proofs.DnsName
import ServiceClient.Proofs.EmbeddedDocuments
import ServiceClient.Proofs.EndpointAuthority
import ServiceClient.Proofs.EndpointPath
import ServiceClient.Proofs.EpochSeconds
import ServiceClient.Proofs.ErrorClasses
import ServiceClient.Proofs.ErrorCodes
import ServiceClient.Proofs.ErrorReading
import ServiceClient.Proofs.Exchange
import ServiceClient.Proofs.FieldNames
import ServiceClient.Proofs.Fields
import ServiceClient.Proofs.Forms
import ServiceClient.Proofs.GivenValues
import ServiceClient.Proofs.HeaderLineBreaks
import ServiceClient.Proofs.HeaderWrites
import ServiceClient.Proofs.IonBinaryReading
import ServiceClient.Proofs.IonNumbers
import ServiceClient.Proofs.IonRoundTrip
import ServiceClient.Proofs.IonTextReading
import ServiceClient.Proofs.IonTokens
import ServiceClient.Proofs.JsonBodies
import ServiceClient.Proofs.JsonGrammar
import ServiceClient.Proofs.JsonReading
import ServiceClient.Proofs.JsonRoundTrip
import ServiceClient.Proofs.JsonString
import ServiceClient.Proofs.JsonWritten
import ServiceClient.Proofs.KmsOutcome
import ServiceClient.Proofs.LogColumns
import ServiceClient.Proofs.Milliseconds
import ServiceClient.Proofs.NearestDouble
import ServiceClient.Proofs.NormalForm
import ServiceClient.Proofs.NumberText
import ServiceClient.Proofs.Outcome
import ServiceClient.Proofs.OutgoingHeaders
import ServiceClient.Proofs.PathSegments
import ServiceClient.Proofs.PathText
import ServiceClient.Proofs.Payload
import ServiceClient.Proofs.ProfileFiles
import ServiceClient.Proofs.ProfileText
import ServiceClient.Proofs.QueryParameters
import ServiceClient.Proofs.QueryText
import ServiceClient.Proofs.RawPath
import ServiceClient.Proofs.Refusals
import ServiceClient.Proofs.RefusedCalls
import ServiceClient.Proofs.RegionChains
import ServiceClient.Proofs.RequestFailures
import ServiceClient.Proofs.RequestHeaders
import ServiceClient.Proofs.Requests
import ServiceClient.Proofs.RootRequests
import ServiceClient.Proofs.ShortNames
import ServiceClient.Proofs.ShortestText
import ServiceClient.Proofs.TimestampText
import ServiceClient.Proofs.Tree
import ServiceClient.Proofs.UrlReading
import ServiceClient.Proofs.Utf8
import ServiceClient.Proofs.Writing
import ServiceClient.Proofs.WrittenBodies
import ServiceClient.Region
import ServiceClient.Service.Contribution
import ServiceClient.Service.Dialect
import ServiceClient.Service.ErrorReader
import ServiceClient.Service.Marshalling
import ServiceClient.Service.Operation
import ServiceClient.Service.PathTemplate
import ServiceClient.Service.Reply
import ServiceClient.Service.ServiceError
import ServiceClient.Text.Base64
import ServiceClient.Text.Case
import ServiceClient.Text.Character
import ServiceClient.Text.Charset
import ServiceClient.Text.CodePoint
import ServiceClient.Text.NameTable
import ServiceClient.Text.Percent
import ServiceClient.Text.Punycode
import ServiceClient.Text.Quoted
import ServiceClient.Text.Template
import ServiceClient.Time.Calendar
import ServiceClient.Time.DateText.Draft
import ServiceClient.Time.DateText.Read
import ServiceClient.Time.DateText.Token
import ServiceClient.Time.FromValue
import ServiceClient.Time.InternetText
import ServiceClient.Time.Timestamp
import ServiceClient.Value
import ServiceClient.ValueText
