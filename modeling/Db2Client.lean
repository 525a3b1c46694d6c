import Db2Client.Connection.Connector
import Db2Client.Session.Operation
import Db2Client.Proofs.Session.Link
import Db2Client.Proofs.Session.Frame
import Db2Client.Proofs.Schema.NumberInUse
import Db2Client.Proofs.Schema.Recording
import Db2Client.Proofs.Schema.Compilation
import Db2Client.Proofs.Schema.CompileFailure
import Db2Client.Proofs.Session.RunBlueprint
import Db2Client.Proofs.Session.CurrentSchema
import Db2Client.Proofs.Connection.Preparation
import Db2Client.Proofs.Connection.Connecting
import Db2Client.Proofs.Connection.ConnectLog
import Db2Client.Proofs.Schema.WrittenText
import Db2Client.Proofs.Query.Pagination
import Db2Client.Proofs.Schema.ConventionalName
import Db2Client.Proofs.Schema.IndexStatement
import Db2Client.Proofs.Query.GeneratedKey
import Db2Client.Proofs.Connection.Registration
import Db2Client.Proofs.Connection.CredentialStore
import Db2Client.Proofs.Query.KeyCast
import Db2Client.Proofs.Connection.MaskSegments
import Db2Client.Proofs.Schema.SchemaRemoval
import Db2Client.Proofs.Schema.DefaultClauses
import Db2Client.Proofs.Query.TextCast
import Db2Client.Proofs.Sql.NameReading
import Db2Client.Proofs.Diagnosis.ErrorExplanation
import Db2Client.Proofs.Connection.FailedSave
import Db2Client.Proofs.Query.RowLimit
import Db2Client.Proofs.Connection.NormalForm
