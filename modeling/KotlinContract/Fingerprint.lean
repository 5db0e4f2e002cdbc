import KotlinContract.Digest.Sha256
import KotlinContract.Inspect
import KotlinContract.Json.Value

/-!
# Fingerprints

A rendered contract and the source of its function each have a digest, and the two digests
together have a third one. A report that holds the three can be checked against the texts.
-/
namespace KotlinContract

/-- The digests of a rendered contract and of the source that holds it. -/
structure Fingerprint where
  /-- The digest of the contract. -/
  contract : String
  /-- The digest of the source. -/
  source : String
  /-- The digest of the other two. -/
  combined : String
  deriving DecidableEq

namespace Fingerprint

/-- The digest of two digests: of both texts with a bar between them. -/
def combine (contract source : String) : String :=
  Digest.hexDigest (contract ++ "|" ++ source)

/-- The digests of two texts. -/
def ofTexts (contract source : String) : Fingerprint :=
  let contract := Digest.hexDigest contract
  let source := Digest.hexDigest source
  { contract, source, combined := combine contract source }

/-- The key of a report's entry under which its digests stand. -/
def key : String := "artifacts"

/-- The key of the digest of the contract. -/
def contractKey : String := "contract_hash"

/-- The key of the digest of the source. -/
def sourceKey : String := "source_hash"

/-- The key of the digest of both. -/
def combinedKey : String := "combined_hash"

/-- The digests as a JSON value. -/
def toJson (fingerprint : Fingerprint) : Json :=
  .object
    [(contractKey, .text fingerprint.contract), (sourceKey, .text fingerprint.source),
      (combinedKey, .text fingerprint.combined)]

/-- What was found when an entry was checked. -/
structure Verdict where
  /-- The contract has the digest of the entry. -/
  contract : Bool
  /-- The source has the digest of the entry. -/
  source : Bool
  /-- The digests of the entry go together. -/
  combined : Bool
  deriving DecidableEq

/-- Whether all of the entry is right. -/
def Verdict.valid (verdict : Verdict) : Bool :=
  verdict.contract && verdict.source && verdict.combined

/-- A verdict as a JSON value. -/
def Verdict.toJson (verdict : Verdict) : Json :=
  .object
    [("valid", .boolean verdict.valid), ("contract_match", .boolean verdict.contract),
      ("source_match", .boolean verdict.source), ("combined_match", .boolean verdict.combined)]

/-- Whether the value under a key is a text. -/
def holds (members : List (String × Json)) (key text : String) : Bool :=
  match Json.member? members key with
  | some (.text value) => value == text
  | _ => false

/-- The value under a key as text; a key that is missing gives none. -/
def shown (members : List (String × Json)) (key : String) : String :=
  (Json.member? members key).elim "" Json.display

/-- Check an entry of a report against a contract and a source. -/
def verify (entry : Json) (contract source : String) : Verdict :=
  let digests := ((Json.member? entry.members key).map Json.members).getD []
  { contract := holds digests contractKey (Digest.hexDigest contract)
    source := holds digests sourceKey (Digest.hexDigest source)
    combined :=
      holds digests combinedKey (combine (shown digests contractKey) (shown digests sourceKey)) }

end Fingerprint

end KotlinContract
