import MagnetStream.Calendar.IsoReader
import MagnetStream.Json.Reader
import MagnetStream.Text.Charset.Fault
import MagnetStream.Torrent.File
import MagnetStream.Url.Base
import MagnetStream.Url.Target

/-!
# Failures

Everything that can go wrong, by its cause. The failures of the service and of talking to it fall
into families that callers tell apart; everything else has none. The report on a failure is worded
in one place.
-/

namespace MagnetStream

/-- The families of failures that callers tell apart. -/
inductive Family where
  | service
  | invalidCredential
  | accountLocked
  | transport
  | malformedResponse
  | badStatus
  | terminalStatus
  | pollTimeout
  | noEligibleFile
  | invalidConfiguration
deriving DecidableEq, Repr

namespace Family

def all : List Family :=
  [service, invalidCredential, accountLocked, transport, malformedResponse, badStatus,
    terminalStatus, pollTimeout, noEligibleFile, invalidConfiguration]

/-- The name under which a family is reported to clients. -/
def name : Family → String
  | service => "DebridError"
  | invalidCredential => "InvalidCredentialError"
  | accountLocked => "AccountLockedError"
  | transport => "DebridTransportError"
  | malformedResponse => "MalformedResponseError"
  | badStatus => "BadStatusError"
  | terminalStatus => "TerminalTorrentStatusError"
  | pollTimeout => "PollTimeoutError"
  | noEligibleFile => "NoEligibleFileError"
  | invalidConfiguration => "InvalidConfigurationError"

/-- The HTTP status with which a family is answered. What is the fault of the service is answered as
a bad gateway. -/
def httpStatus : Family → Nat
  | invalidCredential => 401
  | accountLocked => 403
  | noEligibleFile => 404
  | terminalStatus => 422
  | invalidConfiguration => 500
  | pollTimeout => 504
  | service | transport | malformedResponse | badStatus => 502

end Family

inductive ResponseFault where
  | notJson (purpose : String)
  | notObject (purpose kind : String)
  | missingKey (purpose key : String)
  | missingUserId
  | noLinks
  | immovableUrl (fault : Url.MoveFault)
deriving DecidableEq, Repr

def ResponseFault.message : ResponseFault → String
  | notJson purpose => purpose ++ ": response body is not JSON"
  | notObject purpose kind => purpose ++ ": expected a JSON object, got " ++ kind
  | missingKey purpose key => purpose ++ ": response body doesn't contain \"" ++ key ++ "\" key"
  | missingUserId => "Couldn't parse user info response: missing \"id\" key"
  | noLinks => "Couldn't get torrent info: downloaded torrent has no \"links\""
  | immovableUrl fault => "Couldn't rewrite torrent URL: " ++ fault.message

inductive EntryFault where
  | notText (kind : String)
  | notMoment (fault : Calendar.MomentFault)
deriving DecidableEq, Repr

def EntryFault.message : EntryFault → String
  | notText kind => "expected str, got " ++ kind
  | notMoment fault => fault.message

/-- The two kinds of storage behind the cache. -/
inductive Backend where
  | disk
  | redis
deriving DecidableEq, Repr

inductive Failure where
  /-- A failure of a family, with nothing but what its source said about it. -/
  | reported (family : Family) (notes : List String)
  /-- A request that did not reach the service. -/
  | unsent (method url reason : String)
  | badStatus (code : Int) (method url body : String)
  | terminalStatus (status : String)
  | pollTimeout (lastStatus : String) (waited : Binary64)
  | badResponse (fault : ResponseFault)
  | noFile (fault : Torrent.SelectionFault)
  | badBase (fault : Url.BaseFault)
  | badHeader (text : String)
  | noPolls
  | hashesNotList
  | jsonLimit (limit : Json.Limit)
  | notWhole (fault : Binary64.WholeFault)
  | badDuration (fault : Calendar.Duration.Fault)
  | outsideCalendar
  | corruptEntry (fault : EntryFault)
  | storageClosed (backend : Backend)
  | negativeConcurrency
  | unknownBackend (name : String)
  | unencodable (text : String) (first last : Nat)
  | unreadable (fault : Text.CharsetFault)
  | badTarget (fault : Url.TargetFault)
  /-- A response to a request whose URL names no place. -/
  | noPlace (url : String)
  | missingFile (path : String)
  /-- A directory in the place of a file. -/
  | fileIsDirectory (path : String)
  | nameTooLong (path : String)
  /-- A directory that is not there, and whose name is too long to make it. -/
  | directoryTooLong (path : String)
  | notAMapping (path kind : String)
  | notAPath (kind : String)
  | unknownHome
  /-- A text with the character zero, where none can be. -/
  | zeroInText
  /-- A time to live that is too long to reckon with. -/
  | endlessTime
  /-- A failure of something outside the program, of a kind that has only a name here. -/
  | outside (kind : String) (notes : List String)
deriving DecidableEq, Repr

/-- What the source of a failure said: nothing, one thing, or several in a row. -/
def explain : List String → String
  | [] => ""
  | [note] => note
  | notes => "(" ++ ", ".intercalate (notes.map Text.quoted) ++ ")"

/-- The report on a number without a whole part. -/
def Binary64.WholeFault.message : Binary64.WholeFault → String
  | infinite => "cannot convert float infinity to integer"
  | notANumber => "cannot convert float NaN to integer"

/-- The report on a number of seconds that is no span. -/
def Calendar.Duration.Fault.message : Calendar.Duration.Fault → String
  | number fault => fault.message
  | tooLong days => "days=" ++ toString days ++ "; must have magnitude <= 999999999"
  | uncountable => "Python int too large to convert to C int"

namespace Failure

def family? : Failure → Option Family
  | reported family _ => some family
  | unsent .. => some .transport
  | badStatus .. => some .badStatus
  | terminalStatus _ => some .terminalStatus
  | pollTimeout .. => some .pollTimeout
  | badResponse _ => some .malformedResponse
  | noFile _ => some .noEligibleFile
  | badBase .empty | badBase (.notWeb _) | badHeader _ => some .invalidConfiguration
  | _ => none

/-- The characters of a text from one place to another that cannot be sent. -/
def unencodableMessage (text : String) (first last : Nat) : String :=
  let char := text.toList.getD first ' '
  if first = last then
    "'ascii' codec can't encode character '" ++ Text.codePointEscape char ++ "' in position " ++
      toString first ++ ": ordinal not in range(128)"
  else
    "'ascii' codec can't encode characters in position " ++ toString first ++ "-" ++
      toString last ++ ": ordinal not in range(128)"

def message : Failure → String
  | reported _ notes => explain notes
  | unsent method url reason =>
    "Couldn't send " ++ method ++ " request to '" ++ url ++ "': " ++ reason
  | badStatus code method url body =>
    "bad HTTP response status: " ++ toString code ++ " (" ++ method ++ " request to '" ++ url ++
      "'" ++ (if body.isEmpty then "" else "; response body: '" ++ body ++ "'") ++ ")"
  | terminalStatus status => "Bad torrent status: " ++ status
  | pollTimeout lastStatus waited =>
    "Torrent still " ++ lastStatus ++ " after waiting for " ++ waited.toSixDigits ++ " seconds"
  | badResponse fault => fault.message
  | noFile fault => fault.message
  | badBase fault => fault.message
  | badHeader text =>
    "extra headers must have a format like \"X-Foo: bar\", got " ++ Text.quoted text
  | noPolls => "poll_budget must be >= 1"
  | hashesNotList => "info_hashes must be a collection of hashes, not a string"
  | jsonLimit limit => limit.message
  | notWhole fault => fault.message
  | badDuration fault => fault.message
  | outsideCalendar => "date value out of range"
  | corruptEntry fault => fault.message
  | storageClosed .disk =>
    "Cache not initialized. Use 'async with cache:' or await cache.__aenter__()"
  | storageClosed .redis => "Redis not initialized. Use 'async with cache:'"
  | negativeConcurrency => "Semaphore initial value must be >= 0"
  | unknownBackend name =>
    "Unknown cache backend: " ++ Text.quoted name ++ ". Must be 'diskcache' or 'redis'."
  | unencodable text first last => unencodableMessage text first last
  | unreadable fault => fault.message
  | badTarget fault => fault.message
  | noPlace url => "unknown url type: " ++ Text.quoted url
  | missingFile path => path
  | fileIsDirectory path => "[Errno 21] Is a directory: " ++ Text.quoted path
  | nameTooLong path => "[Errno 36] File name too long: " ++ Text.quoted path
  | directoryTooLong path =>
    "[Errno 36] Cache directory \"" ++ path ++ "\" does not exist and could not be created"
  | notAMapping path kind =>
    path ++ ": expected a mapping with debrid/cache/logging sections, got " ++ kind
  | notAPath kind => "Expected path-like value, got: <class '" ++ kind ++ "'>"
  | unknownHome => "Could not determine home directory."
  | zeroInText => "embedded null byte"
  | endlessTime => "int too large to convert to float"
  | outside _ notes => explain notes

end Failure
end MagnetStream
