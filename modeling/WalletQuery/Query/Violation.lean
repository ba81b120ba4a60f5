import WalletQuery.Format

/-! The rules of the query language that a well-shaped request may break. -/
namespace WalletQuery

/-- `query` is the id of the credential query concerned. -/
inductive Violation where
  | noCredentials
  | noMeta (query : String)
  | noDoctype (query : String)
  | noVctValues (query : String)
  | noClaims (query : String)
  | emptyValues (query : String)
  | emptyClaimSet (query : String)
  | emptyTrustedAuthorities
  | constraintMismatch (query : String) (format : Format)
  | repeatedClaimId (query claim : String)
  | emptyOption
  | noOptions
  | repeatedQueryId (query : String)
  deriving DecidableEq

namespace Violation

def quoted (id : String) : String := "credential query `" ++ id ++ "`"

def message : Violation → String
  | noCredentials => "`credentials` must be a non-empty array"
  | noMeta query => quoted query ++ " has no `meta`"
  | noDoctype query => quoted query ++ " must have a string `meta.doctype_value`"
  | noVctValues query => quoted query ++ " must have a non-empty string array `meta.vct_values`"
  | noClaims query => quoted query ++ " must have a non-empty `claims` array"
  | emptyValues query => quoted query ++ " has a claim with empty `values`"
  | emptyClaimSet query => quoted query ++ " has an empty claim set"
  | emptyTrustedAuthorities => "`trusted_authorities` must not be empty"
  | constraintMismatch query format =>
    quoted query ++ " has `meta` that does not apply to format `" ++ format.name ++ "`"
  | repeatedClaimId query claim =>
    quoted query ++ " has more than one claim with id `" ++ claim ++ "`"
  | emptyOption => "credential set option must not be empty"
  | noOptions => "`options` must not be empty"
  | repeatedQueryId query => "more than one credential query with id `" ++ query ++ "`"

end Violation
end WalletQuery
