import PeppolStatistics.Failure

/-!
# Identifiers

Participants, document types and processes are named by a scheme and a value within the scheme.
Both hold text, which is part of the type. The written form is `scheme::value`; reading splits at
the first separator, so a value may hold further ones.
-/

namespace PeppolStatistics

/-! ## 1. The type -/

/-- An identifier within a scheme. -/
structure Identifier where
  scheme : String
  value : String
  scheme_hasText : Text.hasText scheme = true
  value_hasText : Text.hasText value = true
deriving DecidableEq, Repr

namespace Identifier

/-- The identifier with a scheme and a value; the scheme is checked first. -/
def make (scheme value : String) : Except Failure Identifier :=
  if hs : Text.hasText scheme = true then
    if hv : Text.hasText value = true then .ok ⟨scheme, value, hs, hv⟩
    else .error (.invalid "identifier value" .empty)
  else .error (.invalid "identifier scheme" .empty)

@[simp] theorem make_self (i : Identifier) : make i.scheme i.value = .ok i := by
  simp [make, i.scheme_hasText, i.value_hasText]

/-! ## 2. The written form -/

/-- The written form, character by character. -/
def uriChars (i : Identifier) : List Char := i.scheme.toList ++ ':' :: ':' :: i.value.toList

/-- The written form. -/
def uri (i : Identifier) : String := String.ofList i.uriChars

/-- The texts before and after the first separator. -/
def splitSeparator? : List Char → Option (List Char × List Char)
  | [] => none
  | ':' :: ':' :: rest => some ([], rest)
  | c :: rest => (splitSeparator? rest).map fun p => (c :: p.1, p.2)

/-- The identifier with a written form. -/
def parse (s : String) : Except Failure Identifier :=
  match splitSeparator? s.toList with
  | some (scheme, value) => make (String.ofList scheme) (String.ofList value)
  | none => .error (.invalid "identifier URI" (.notSchemeValue (quoted s)))

/-! ## 3. Well-known schemes -/

/-- The scheme of participants. -/
def participantScheme : String := "iso6523-actorid-upis"

/-- The scheme of document types. -/
def documentTypeScheme : String := "busdox-docid-qns"

/-- The scheme of processes. -/
def processScheme : String := "cenbii-procid-ubl"

/-- The scheme of the reporting service provider, named by its certificate. -/
def serviceProviderScheme : String := "CertSubjectCN"

/-- The transport protocol in use. -/
def transportProtocolAs4 : String := "peppol-transport-as4-v2_0"

end Identifier

end PeppolStatistics
