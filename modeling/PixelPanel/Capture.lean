import PixelPanel.Report

/-!
# Captures

A capture is what was received during some time. The strict way of decoding it gives all of its
reports or the first reason why it has none. The lenient way keeps every report it can get, and every
reason why some are missing.
-/

namespace PixelPanel

/-- What a capture holds. -/
structure Capture where
  octets : Octets
  reports : List Report
  failures : List Report.Failure
  deriving DecidableEq, Repr

namespace Capture

/-- Decodes all or nothing. -/
def decodeStrict (octets : Octets) : Capture :=
  match Report.readAll octets with
  | .ok reports => ⟨octets, reports, []⟩
  | .error failure => ⟨octets, [], [failure]⟩

/-- Decodes what can be decoded. A fault of the envelopes comes before malformed payloads. -/
def decodeLenient (octets : Octets) : Capture :=
  let (payloads, fault) := Envelope.unwrapPartial octets
  let (reports, malformed) := Report.decodeEach payloads
  ⟨octets, reports, fault.toList.map .fault ++ malformed.map .malformed⟩

/-- Decodes in one of the two ways. -/
def decode (lenient : Bool) (octets : Octets) : Capture :=
  if lenient then decodeLenient octets else decodeStrict octets

/-- The reasons why reports are missing. -/
def error? (capture : Capture) : Option String :=
  if capture.failures.isEmpty then none
  else some ("; ".intercalate (capture.failures.map Report.Failure.message))

end Capture
end PixelPanel
