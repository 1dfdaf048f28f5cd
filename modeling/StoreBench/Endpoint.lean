/-
The file system under test and what a test needs around it: the endpoint named in the settings, the
directory of a run, options for a single bucket and checks of single options.
-/

import StoreBench.Check
import StoreBench.Keys
import StoreBench.Overrides
import StoreBench.Settings

namespace StoreBench

/-! ### The endpoint -/

structure Endpoint where
  uri : String
  bucket : String
deriving Repr, DecidableEq

namespace Endpoint

/-- The endpoint with the URI: the scheme, `://`, a bucket that is not empty, and then nothing or a
path that begins with a slash. -/
def ofUri? (uri : String) : Option Endpoint := do
  let (scheme, rest) ← Text.splitAt? "://".toList uri.toList
  let bucket := rest.takeWhile (· != '/')
  if scheme == Key.scheme.toList && !bucket.isEmpty then
    some ⟨uri, String.ofList bucket⟩
  else none

/-- The name of the file system under test, empty where none is set. -/
def nameIn (s : Settings) : String :=
  (s.trimmed? Key.endpoint).getD ""

/-- The endpoint named in the settings. Where none is, tests of it are to be skipped. -/
def require (s : Settings) : Except Fault Endpoint :=
  match ofUri? (nameIn s) with
  | some endpoint => .ok endpoint
  | none => .error (.assumption ("No test filesystem in " ++ Key.endpoint))

end Endpoint

/-! ### The directory of a run -/

/-- The directory that a run works in: its own if it is one of several with a name each, otherwise
the default. A run whose name is empty works at the root's `/test`. -/
def testPath (o : Overrides) (default : String) : String :=
  match o.get? Key.forkId with
  | some fork => if fork == "" then "/test" else "/" ++ fork ++ "/test"
  | none => default

/-! ### Options -/

namespace Settings

/-- The part of an option's key that is left when the common beginning of all options is. -/
def optionBase (key : String) : String :=
  (Text.behind? Key.option key).getD key

def bucketKey (bucket key : String) : String :=
  Key.bucketOption ++ bucket ++ "." ++ optionBase key

def setBucketOption (s : Settings) (bucket key text : String) : Settings :=
  s.set (bucketKey bucket key) text

/-- Refuses settings in which an option is not exactly as expected. -/
def requireOption (s : Settings) (key : String) (expected : Option String) : Except Fault Unit :=
  let actual := s.get? key
  if actual = expected then .ok ()
  else .error (.configuration (.otherValue key expected actual))

def withoutCaching (s : Settings) : Settings :=
  s.setBool Key.disableCache true

def assumeEncryption (s : Settings) : Check Unit :=
  Check.assume "Skipping encryption tests" (s.getBool Key.encryptionTests true)

end Settings

end StoreBench
