import Turnstile.Digest.Sha256

/-!
Canonical keys: the key of a record is made of a prefix, the scope of the operation and the hash of
the client's key, so its length does not depend on the client.
-/

namespace Turnstile

/-- The canonical key of a client's key within a scope. -/
def canonicalKey (keyPrefix scope rawKey : String) : String :=
  .ofList (keyPrefix.toList ++ ':' :: scope.toList ++ ':' :: Sha256.hexDigest rawKey)

/-- The prefix of canonical keys unless another is configured. -/
def defaultKeyPrefix : String := "idem"

end Turnstile
