import VersionedApi.Json.Shape

/-!
# Verification of certificates

Against which certificates a server is verified.
-/

namespace VersionedApi

/-- How the certificate of a server is verified. -/
inductive Verification where
  /-- Against the certificates of the system. -/
  | enabled
  /-- Not at all. -/
  | disabled
  /-- Against the certificates of a file alone. -/
  | bundle (path : String)
deriving DecidableEq, Repr

namespace Verification

/-- Whether any certificate is accepted. -/
def isInsecure : Verification → Bool
  | .disabled => true
  | _ => false

/-- Whether the certificates of the system are trusted. -/
def trustsSystem : Verification → Bool
  | .bundle _ => false
  | _ => true

/-- The verification of a truth value. -/
def ofBool (verify : Bool) : Verification := if verify then .enabled else .disabled

/-- The verification of a value: a truth value or a path. -/
def ofJson : Json → Json.Decoded Verification
  | .bool b => .ok (ofBool b)
  | .str path => .ok (.bundle path)
  | _ => .error (.noVariant "VerifySetting")

/-- The value of a verification. -/
def toJson : Verification → Json
  | .enabled => .bool true
  | .disabled => .bool false
  | .bundle path => .str path

/-- The text that shows a verification. -/
def shown : Verification → String
  | .enabled => "Enabled"
  | .disabled => "Disabled"
  | .bundle path => "CaBundle(" ++ Text.Quoted.quote path ++ ")"

end Verification

end VersionedApi
