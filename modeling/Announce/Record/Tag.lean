/-!
# Record tags

Only the direct-neighbor list is read by this library.  The other tags have
names so that a listing can label the records that it passes over.
-/

namespace Announce.Tag

/-- The nickname of the sender. -/
def nickname : UInt8 := 1

/-- The static public key of the sender's secure channel. -/
def noisePublicKey : UInt8 := 2

/-- The public key of the sender's signatures. -/
def signingPublicKey : UInt8 := 3

/-- The identifiers of the peers that the sender observes directly. -/
def directNeighbors : UInt8 := 4

/-- The label of a tag in a listing. -/
def name (tag : UInt8) : String :=
  if tag = nickname then "NICKNAME"
  else if tag = noisePublicKey then "NOISE_PUBLIC_KEY"
  else if tag = signingPublicKey then "SIGNING_PUBLIC_KEY"
  else if tag = directNeighbors then "DIRECT_NEIGHBORS"
  else "UNKNOWN"

end Announce.Tag
