import Basement.Library.TrimmedText
import Mathlib.Logic.Function.Basic

namespace Basement
namespace Frontend
namespace BulkKeys

open Library.TrimmedText

/-!
# Bulk import of keys

`parseBulkKeys` turns a pasted text into rows.  It reads an aws credentials file, a table with
commas, or a table with tabs, and finds out by itself which of them it has unless it is told.

What the loops assign to the properties of a row is kept as a list, in the order of the
assignments.  The row is what the last assignment to each property leaves.  `URL` is a parameter:
it says of an endpoint whether the constructor accepts it and finds a scheme and a host.
-/

abbrev Text := List Char

/-! ## Characters and lines -/

/-- What `trim` removes. -/
def blanks : List Char :=
  ['\t', '\n', '\x0b', '\x0c', '\r', ' ', '\u00a0', '\u1680', '\u2000', '\u2001', '\u2002',
    '\u2003', '\u2004', '\u2005', '\u2006', '\u2007', '\u2008', '\u2009', '\u200a', '\u2028',
    '\u2029', '\u202f', '\u205f', '\u3000', '\ufeff']

def isBlank (c : Char) : Bool := blanks.contains c

/-- `toLowerCase`, as far as a comparison with an ASCII text can tell.  The Kelvin sign is the only
other character with a lower case in ASCII. -/
def lower (c : Char) : Char := if c = '\u212a' then 'k' else c.toLower

/-- A carriage return before a newline belongs to the end of the line. -/
def dropReturns : List Text -> List Text
  | [] => []
  | [last] => [last]
  | piece :: next :: pieces =>
      (if piece.getLast? = some '\r' then piece.dropLast else piece) :: dropReturns (next :: pieces)

/-- `input.split(/\r?\n/)` -/
def splitLines (input : Text) : List Text := dropReturns (input.splitOn '\n')

/-- The line is not empty, and is no comment with one of the marks. -/
def Significant (marks : List Char) (line : Text) : Prop :=
  line ≠ [] ∧ forall mark, mark ∈ marks -> line.head? ≠ some mark

instance (marks : List Char) (line : Text) : Decidable (Significant marks line) :=
  @instDecidableAnd _ _ _ (List.decidableBAll (fun mark => line.head? ≠ some mark) marks)

def significantLines (marks : List Char) (input : Text) : List Text :=
  ((splitLines input).map (trim isBlank)).filter fun line => Significant marks line

/-! ## Rows -/

inductive AddressingStyle where
  | path
  | virtualHost
  deriving DecidableEq, Repr

def AddressingStyle.text : AddressingStyle -> Text
  | .path => "path".toList
  | .virtualHost => "virtual_host".toList

def parseStyle (value : Text) : Option AddressingStyle :=
  if value = AddressingStyle.path.text then some .path
  else if value = AddressingStyle.virtualHost.text then some .virtualHost
  else none

inductive Field where
  | aliasName
  | endpoint
  | accessKeyId
  | secretKey
  | region
  | addressingStyle
  deriving DecidableEq, Repr

/-- `Omit<ParsedKeyRow, "rowErrors">` -/
structure KeyRow where
  aliasName : Text
  endpoint : Text
  accessKeyId : Text
  secretKey : Text
  region : Text
  addressingStyle : Option AddressingStyle
  deriving DecidableEq, Repr

structure ParsedKeyRow extends KeyRow where
  rowErrors : List String
  deriving DecidableEq, Repr

def orError (fine : Bool) (text : String) : List String := if fine then [] else [text]

def finalizeRow (isFullURL : Text -> Bool) (input : KeyRow) : ParsedKeyRow where
  aliasName := input.aliasName
  endpoint := input.endpoint
  accessKeyId := input.accessKeyId
  secretKey := input.secretKey
  region := if input.region = [] then "us-east-1".toList else input.region
  addressingStyle := input.addressingStyle
  rowErrors :=
    orError (input.aliasName ≠ []) "alias is required" ++
    orError (input.endpoint ≠ []) "endpoint is required" ++
    orError (input.accessKeyId ≠ []) "accessKeyId is required" ++
    orError (input.secretKey ≠ []) "secretKey is required" ++
    orError (input.endpoint = [] || isFullURL input.endpoint)
      "endpoint must be a full URL with scheme and host"

/-- The properties that a loop sets, in its order. -/
abbrev Assignments := List (Field × Text)

/-- `Partial<ParsedKeyRow>` -/
abbrev PartialRow := Field -> Option Text

/-- An addressing style that is none of the two is not stored. -/
def PartialRow.set (row : PartialRow) (assignment : Field × Text) : PartialRow :=
  if assignment.1 = .addressingStyle ∧ parseStyle assignment.2 = none then row
  else Function.update row assignment.1 (some assignment.2)

def rowOf (assignments : Assignments) : KeyRow :=
  let row : PartialRow := assignments.foldl PartialRow.set fun _ => none
  { aliasName := (row .aliasName).getD []
    endpoint := (row .endpoint).getD []
    accessKeyId := (row .accessKeyId).getD []
    secretKey := (row .secretKey).getD []
    region := (row .region).getD []
    addressingStyle := (row .addressingStyle).bind parseStyle }

/-! ## Names of the columns -/

def fieldNamed (names : List (String × Field)) (word : Text) : Option Field :=
  (names.find? fun entry => entry.1.toList = word).map Prod.snd

def headerNames : List (String × Field) :=
  [("alias", .aliasName), ("name", .aliasName), ("profile", .aliasName),
    ("endpoint", .endpoint), ("endpointurl", .endpoint), ("url", .endpoint),
    ("accesskeyid", .accessKeyId), ("awsaccesskeyid", .accessKeyId), ("accesskey", .accessKeyId),
    ("secretkey", .secretKey), ("secretaccesskey", .secretKey), ("awssecretaccesskey", .secretKey),
    ("region", .region), ("addressingstyle", .addressingStyle)]

def normalizeHeader (h : Text) : Option Field :=
  fieldNamed headerNames ((h.map lower).filter fun c => c ≠ '_' && c ≠ '-')

def awsKeys : List (String × Field) :=
  [("aws_access_key_id", .accessKeyId), ("aws_secret_access_key", .secretKey), ("region", .region),
    ("endpoint_url", .endpoint), ("endpoint", .endpoint),
    ("addressing_style", .addressingStyle), ("addressingstyle", .addressingStyle)]

def awsField (key : Text) : Option Field := fieldNamed awsKeys (key.map lower)

/-! ## Formats -/

inductive BulkKeyFormat where
  | awsCredentials
  | csv
  | tsv
  | unknown
  deriving DecidableEq, Repr

/-- The match of `/^\[([^\]]+)\]$/`. -/
def sectionName (line : Text) : Option Text :=
  let name := line.tail.takeWhile fun c => c ≠ ']'
  if name ≠ [] ∧ line = '[' :: (name ++ [']']) then some name else none

def detectFormat (input : Text) : BulkKeyFormat :=
  match significantLines ['#', ';'] input with
  | [] => .unknown
  | first :: _ =>
      if (sectionName first).isSome then .awsCredentials
      else if '\t' ∈ first then .tsv
      else if ',' ∈ first then .csv
      else .unknown

/-! ## Credentials files -/

/-- The text before the first equals sign and the text behind it. -/
def keyValue (line : Text) : Option (Text × Text) :=
  match line.dropWhile fun c => c ≠ '=' with
  | [] => none
  | _ :: value => some (trim isBlank (line.takeWhile fun c => c ≠ '='), trim isBlank value)

/-- The rows that are finished, and the one of the section that is read. -/
structure AwsState where
  out : List Assignments
  current : Option Assignments

def AwsState.flush (s : AwsState) : List Assignments := s.out ++ s.current.toList

def AwsState.step (s : AwsState) (line : Text) : AwsState :=
  match sectionName line with
  | some name => { out := s.flush, current := some [(.aliasName, trim isBlank name)] }
  | none =>
      match s.current, keyValue line with
      | some current, some (key, value) =>
          match awsField key with
          | some field => { s with current := some (current ++ [(field, value)]) }
          | none => s
      | _, _ => s

def parseAwsCredentials (input : Text) : List Assignments :=
  ((significantLines ['#', ';'] input).foldl AwsState.step ⟨[], none⟩).flush

/-! ## Tables -/

def cells (delimiter : Char) (line : Text) : List Text :=
  (line.splitOn delimiter).map (trim isBlank)

/-- The loop over the columns; a cell that is missing is empty. -/
def assign : List (Option Field) -> List Text -> Assignments
  | [], _ => []
  | none :: header, values => assign header values.tail
  | some field :: header, values => (field, values.headD []) :: assign header values.tail

/-- Fewer than two lines have no row. -/
def parseLines (delimiter : Char) : List Text -> List Assignments
  | [] => []
  | first :: lines =>
      let header := (cells delimiter first).map normalizeHeader
      lines.map fun line => assign header (cells delimiter line)

def parseDelimited (delimiter : Char) (input : Text) : List Assignments :=
  parseLines delimiter (significantLines ['#'] input)

/-! ## The entry point -/

/-- What the loops assign, for each row. -/
def assignments (input : Text) : BulkKeyFormat -> List Assignments
  | .awsCredentials => parseAwsCredentials input
  | .csv => parseDelimited ',' input
  | .tsv => parseDelimited '\t' input
  | .unknown => []

def parseBulkKeys (isFullURL : Text -> Bool) (input : Text) (forceFormat : Option BulkKeyFormat) :
    BulkKeyFormat × List ParsedKeyRow :=
  let format := forceFormat.getD (detectFormat input)
  (format, (assignments input format).map fun row => finalizeRow isFullURL (rowOf row))

end BulkKeys
end Frontend
end Basement
