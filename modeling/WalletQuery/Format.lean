/-! Credential formats, and the names by which requests ask for them. -/
namespace WalletQuery

/-- Only the two named formats can be matched against stored credentials. -/
inductive Format where
  | msoMdoc
  | sdJwtVc
  | other (name : String)
  deriving DecidableEq

/-- What a wallet accepts beyond the letter of the query language. -/
structure Tolerance where
  /-- Whether `vc+sd-jwt` is read as `dc+sd-jwt`. -/
  legacySdJwt : Bool
  deriving DecidableEq

def Tolerance.strict : Tolerance := ⟨false⟩

namespace Format

def msoMdocName : String := "mso_mdoc"

def sdJwtVcName : String := "dc+sd-jwt"

/-- The name of SD-JWT credentials before they were renamed. -/
def legacySdJwtName : String := "vc+sd-jwt"

def ofName (name : String) : Format :=
  if name = msoMdocName then .msoMdoc
  else if name = sdJwtVcName then .sdJwtVc
  else .other name

def ofNameLenient (name : String) : Format :=
  if name = legacySdJwtName then .sdJwtVc else ofName name

def read (tolerance : Tolerance) (name : String) : Format :=
  if tolerance.legacySdJwt then ofNameLenient name else ofName name

def name : Format → String
  | msoMdoc => msoMdocName
  | sdJwtVc => sdJwtVcName
  | other name => name

def isSupported : Format → Bool
  | other _ => false
  | _ => true

@[simp] theorem name_ofName (name : String) : (ofName name).name = name := by
  simp only [ofName]
  split
  · simp_all [Format.name]
  · split <;> simp_all [Format.name]

theorem ofName_name {format : Format} :
    ofName format.name = format ↔
      format ≠ .other msoMdocName ∧ format ≠ .other sdJwtVcName := by
  cases format with
  | msoMdoc => simp [ofName, Format.name]
  | sdJwtVc => simp [ofName, Format.name, msoMdocName, sdJwtVcName]
  | other name =>
    by_cases mdoc : name = msoMdocName
    · simp [ofName, Format.name, mdoc]
    · by_cases sdJwt : name = sdJwtVcName
      · subst sdJwt
        simp [ofName, Format.name, mdoc]
      · simp [ofName, Format.name, mdoc, sdJwt]

end Format
end WalletQuery
