/-
The keys of settings that the bench itself reads or writes. The wider catalogue of keys belongs to
the client of the store.
-/

namespace StoreBench.Key

/-! ### Beginnings -/

/-- Every option of the store's file system begins so. -/
def option : String := "fs.s3a."

/-- Every option for one bucket begins so; the bucket and the rest of the option follow. -/
def bucketOption : String := "fs.s3a.bucket."

def scheme : String := "s3a"

/-! ### Properties of a test run -/

def endpoint : String := "test.fs.s3a.name"

/-- The name of this one of several parallel test runs. -/
def forkId : String := "test.unique.fork.id"

def encryptionTests : String := "test.fs.s3a.encryption.enabled"

/-- A metadata store is used by the tests. -/
def backendEnabled : String := "fs.s3a.s3guard.test.enabled"

/-- The metadata store is authoritative in the tests. -/
def backendAuthoritative : String := "fs.s3a.s3guard.test.authoritative"

/-- The backend that the tests use. -/
def backendMode : String := "fs.s3a.s3guard.test.implementation"

/-! ### Options of the client -/

def authoritative : String := "fs.s3a.metadatastore.authoritative"

def storeClass : String := "fs.s3a.metadatastore.impl"

/-- The table of the metadata store is created when it is missing. -/
def tableCreate : String := "fs.s3a.s3guard.ddb.table.create"

def clientFactory : String := "fs.s3a.s3guard.ddb.client.factory.impl"

def purge : String := "fs.s3a.multipart.purge"

/-- The age in seconds from which pending uploads are removed. -/
def purgeAge : String := "fs.s3a.multipart.purge.age"

def disableCache : String := "fs.s3a.impl.disable.cache"

end StoreBench.Key
