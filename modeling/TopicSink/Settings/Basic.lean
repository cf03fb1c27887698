import TopicSink.Duration
import TopicSink.Settings.Store
import TopicSink.Text.Case

namespace TopicSink

structure Settings where
  host : Text
  bulkTimeout : Json
  index : Option Text
  indexColumn : Option Text
  docIdColumn : Option Text
  hiddenColumns : List Text
  username : Option Text
  password : Option Text
  includeDocType : Bool

namespace Settings

def default : Settings :=
  ⟨"http://localhost:9200", .float (.ofInt 1), none, none, none, [], none, none, false⟩

/-- The names between commas, without spaces around them; empty ones do not count. -/
def splitColumns (t : Text) : List Text :=
  (((Text.splitOn ',' t).map (Text.trim CodePoint.isSpace)).filter fun name => !name.isEmpty).eraseDups

def isTrue (t : Text) : Bool := t.lower = "true"

/-- The password: the setting of its own, or else the secret if one is named. -/
def loadPassword (w : Surroundings) : LookUp (Option Text) := do
  let own ← LookUp.setting w "ELASTICSEARCH_PASSWORD" true
  match own with
  | some password => pure (some password)
  | none => do
    let named ← LookUp.setting? w "ELASTICSEARCH_PASSWORD_SECRET_NAME"
    match named with
    | none => pure none
    | some _ => do
      let password ← LookUp.secret w "ELASTICSEARCH_PASSWORD"
      pure (some password)

def load (w : Surroundings) : LookUp Settings := do
  let password ← loadPassword w
  let host ← LookUp.setting? w "ELASTICSEARCH_HOST"
  let timeout ← LookUp.setting? w "ES_BULK_TIMEOUT"
  let bulkTimeout ← Act.ofExcept (Duration.parse ((timeout.map Json.str).getD .null) default.bulkTimeout)
  let index ← LookUp.setting? w "ES_INDEX"
  let indexColumn ← LookUp.setting? w "ES_INDEX_COLUMN"
  let docIdColumn ← LookUp.setting? w "ES_DOC_ID_COLUMN"
  let hidden ← LookUp.setting? w "ES_BLACKLISTED_COLUMNS"
  let username ← LookUp.setting? w "ELASTICSEARCH_USER"
  let docType ← LookUp.setting? w "ES_INCLUDE_DOC_TYPE"
  pure {
    host := host.getD default.host
    bulkTimeout
    index
    indexColumn
    docIdColumn
    hiddenColumns := splitColumns (hidden.getD [])
    username
    password := Text.nonempty? password
    includeDocType := (docType.map isTrue).getD false }

end Settings

end TopicSink
