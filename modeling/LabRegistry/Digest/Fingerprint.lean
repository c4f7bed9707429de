import LabRegistry.Digest.Blake3
import LabRegistry.Value.Canonical

/-!
# Fingerprints

Two documents with the same content have the same fingerprint, whatever the order of their keys.
-/
namespace LabRegistry.Value

def fingerprint (v : Value) : String := Blake3.hashText v.canonical

end LabRegistry.Value
