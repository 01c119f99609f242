import ShipManifest.Json.Write
import ShipManifest.Service.Error
import ShipManifest.Text.Bytes

/-!
# Sinks

A sink takes the bytes of responses until its room is used up, and it flushes a number of times before it refuses. A
response is written as its text, a line feed, and a flush. If the sink refuses within the text, the bytes that fitted
are delivered all the same.
-/

namespace ShipManifest

/-- What a sink still takes: bytes, and flushes; `none` is without end. -/
structure Sink where
  room : Option Nat := none
  flushes : Option Nat := none
  deriving DecidableEq

namespace Sink

/-- Whether `n` bytes fit. -/
def fits (s : Sink) (n : Nat) : Bool :=
  match s.room with
  | none => true
  | some room => n ≤ room

/-- The sink after one more line of `n` bytes. -/
def after (s : Sink) (n : Nat) : Sink :=
  ⟨s.room.map (· - n), s.flushes.map (· - 1)⟩

/-- The bytes delivered for a line, and the sink behind it or the error. -/
structure Written where
  delivered : Text.Bytes
  result : Except ServiceError Sink

/-- Writes a line. -/
def writeLine (s : Sink) (text : Text.Bytes) : Written :=
  if !s.fits text.length then ⟨text.take (s.room.getD 0), .error (.textUnwritten .full)⟩
  else if !s.fits (text.length + 1) then ⟨text, .error (.lineUnwritten .full)⟩
  else if s.flushes = some 0 then ⟨text ++ [10], .error (.lineUnwritten .flush)⟩
  else ⟨text ++ [10], .ok (s.after (text.length + 1))⟩

end Sink

end ShipManifest
