import SeriesQuery.Fingerprint
import SeriesQuery.Fingerprint.XxHash

/-!
# Choice of a hash

The hash of match and group keys can be chosen; that of metrics is fixed.
-/

namespace SeriesQuery

inductive HashAlgorithm
  | fnv
  | xxHash
deriving DecidableEq, Repr

namespace HashAlgorithm

def all : List HashAlgorithm := [fnv, xxHash]

def name : HashAlgorithm → String
  | fnv => "fnv"
  | xxHash => "xxhash"

def ofName? (s : String) : Option HashAlgorithm := all.find? (·.name = s)

def hash : HashAlgorithm → LabelHash
  | fnv => Fingerprint.fnv
  | xxHash => Fingerprint.xxHash

end HashAlgorithm

end SeriesQuery
