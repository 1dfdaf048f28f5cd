/-
The backend that keeps a store's metadata during tests. A run names a mode; `Backend.resolve` turns
it into a backend and `Backend.applyTo` writes the backend's options into settings. `enable` does
both from the properties of a run and leaves the settings alone when it fails; `assumeState` skips a
test whose run is not in the state that the test needs.
-/

import StoreBench.Endpoint
import StoreBench.Layers
import StoreBench.Patch

namespace StoreBench

/-! ### Modes and stores -/

/-- The modes that a run may name. -/
inductive Mode
  /-- A store inside the process. -/
  | local
  /-- The table store against a local double of its service. -/
  | dynamoLocal
  /-- The table store against the live service. -/
  | dynamo
  /-- The store that keeps nothing. -/
  | null
deriving Repr, DecidableEq

namespace Mode

def all : List Mode := [.local, .dynamoLocal, .dynamo, .null]

def name : Mode → String
  | .local => "local"
  | .dynamoLocal => "dynamo-local"
  | .dynamo => "dynamo"
  | .null => "none"

def ofName? (name : String) : Option Mode :=
  all.find? fun mode => mode.name == name

/-- The mode with the name; any other name is refused. -/
def ofName (name : String) : Except Fault Mode :=
  match ofName? name with
  | some mode => .ok mode
  | none => .error (.configuration (.unknownBackend name (all.map Mode.name)))

@[simp] theorem ofName?_name (m : Mode) : ofName? m.name = some m := by
  cases m <;> decide

end Mode

/-- The stores that keep metadata. -/
inductive Store
  | null
  | local
  | dynamo
deriving Repr, DecidableEq

def Store.className : Store → String
  | .null => "org.apache.hadoop.fs.s3a.s3guard.NullMetadataStore"
  | .local => "org.apache.hadoop.fs.s3a.s3guard.LocalMetadataStore"
  | .dynamo => "org.apache.hadoop.fs.s3a.s3guard.DynamoDBMetadataStore"

/-- The class that makes clients of a local double of the table service. -/
def localClientFactory : String :=
  "org.apache.hadoop.fs.s3a.s3guard.DynamoDBLocalClientFactory"

def Mode.store : Mode → Store
  | .local => .local
  | .dynamoLocal => .dynamo
  | .dynamo => .dynamo
  | .null => .null

/-- The client factory that a mode needs. -/
def Mode.clientFactory? : Mode → Option String
  | .dynamoLocal => some localClientFactory
  | _ => none

/-! ### Backends -/

structure Backend where
  /-- The mode of the run; none if the backend is disabled. -/
  mode : Option Mode
  store : Store
  authoritative : Bool
  clientFactory : Option String
deriving Repr, DecidableEq

namespace Backend

/-- A metadata store is authoritative only where the settings say so. -/
def authoritativeByDefault : Bool := false

def disabled : Backend := ⟨none, .null, authoritativeByDefault, none⟩

def ofMode (mode : Mode) (authoritative : Bool) : Backend :=
  ⟨some mode, mode.store, authoritative, mode.clientFactory?⟩

def isEnabled (b : Backend) : Bool :=
  b.mode.isSome

/-- The backend with the name of a mode. Where backends are disabled the name does not matter. -/
def resolve (enabled : Bool) (name : String) (authoritative : Bool) : Except Fault Backend :=
  if enabled then (Mode.ofName name).map fun mode => ofMode mode authoritative
  else .ok disabled

/-- Writes the options of an enabled backend into settings. -/
def applyTo (b : Backend) (s : Settings) : Settings :=
  if b.isEnabled then
    let s := s.setBool Key.authoritative b.authoritative
    let s := s.set Key.storeClass b.store.className
    let s := s.setBool Key.tableCreate true
    match b.clientFactory with
    | some factory => s.set Key.clientFactory factory
    | none => s
  else s

/-! ### Enabling the backend of a run -/

/-- A property of the run: an override, else the word in the settings, else the default. -/
def runFlag (o : Overrides) (key : String) (default : Bool) (s : Settings) : Except Fault Bool :=
  Layers.resolveBool ⟨o, none⟩ key (s.getBool key default)

/-- The run has a backend, by its properties. -/
def enabledIn (o : Overrides) (s : Settings) : Except Fault Bool :=
  runFlag o Key.backendEnabled false s

/-- The name of the run's mode, by its properties. -/
def modeName (o : Overrides) (s : Settings) : String :=
  Layers.resolve ⟨o, none⟩ Key.backendMode
    ((s.trimmed? Key.backendMode).getD Mode.local.name)

/-- Enables the backend that the properties of the run name. Nothing is written when the backend is
disabled or a property is malformed. -/
def enable (o : Overrides) : Patch Backend := do
  if ← Patch.reading (enabledIn o) then
    let authoritative ← Patch.reading (runFlag o Key.backendAuthoritative true)
    let backend ← Patch.reading fun s => resolve true (modeName o s) authoritative
    modify backend.applyTo
    return backend
  else
    return disabled

end Backend

/-! ### Options for one bucket -/

namespace Settings

/-- The settings as one bucket sees them: each option for the bucket alone stands in the place of
the general one. -/
def bucketView (s : Settings) (bucket : String) : Settings :=
  let own := s.toList.filterMap fun entry =>
    (Text.behind? (Key.bucketOption ++ bucket ++ ".") entry.1).map fun option =>
      (Key.option ++ option, entry.2)
  s.setMany own

/-- A metadata store is configured to be authoritative. -/
def isAuthoritative (s : Option Settings) : Bool :=
  match s with
  | some s => s.getBool Key.authoritative Backend.authoritativeByDefault
  | none => Backend.authoritativeByDefault

/-- The bucket's metadata store keeps nothing. -/
def usesNullStore (s : Settings) (bucket : String) : Bool :=
  ((s.bucketView bucket).trimmed? Key.storeClass).getD Store.null.className == Store.null.className

end Settings

namespace Backend

/-- Skips a test unless the run has a backend exactly if it should, by the properties of the run and
by the store that the bucket under test really uses. -/
def assumeState (o : Overrides) (shouldBeEnabled : Bool) (s : Settings) : Check Unit := do
  let enabled ← Check.ofExcept (enabledIn o s)
  let start := "Unexpected metadata store test state: should_be_enabled="
    ++ Text.boolWord shouldBeEnabled
  Check.assume (start ++ " and is_enabled=" ++ Text.boolWord enabled)
    (shouldBeEnabled == enabled)
  let endpoint ← Check.ofExcept (Endpoint.require s)
  let usesNull := s.usesNullStore endpoint.bucket
  Check.assume (start ++ " but using_null_impl=" ++ Text.boolWord usesNull)
    (shouldBeEnabled != usesNull)

end Backend

/-! ### Preparing a run -/

/-- From this age in seconds pending uploads are removed in a prepared run. -/
def purgeAgeSeconds : Int64 := 1800

/-- Prepares settings for a run against the endpoint under test: enables the run's backend and, if
asked for, the removal of pending uploads that are old enough to belong to no parallel test. -/
def prepare (o : Overrides) (purge : Bool) : Patch Endpoint := do
  let endpoint ← Patch.reading Endpoint.require
  let _ ← Backend.enable o
  if purge then
    modify fun s => (s.setBool Key.purge true).setInt Key.purgeAge purgeAgeSeconds
  return endpoint

end StoreBench
