import Syslog.Bytes
import Syslog.Transport.Error

/-!
# Splitting a message into datagrams

A message that is too long for one datagram is cut. Every part but the last ends with a mark, every
part but the first begins with one, and no part is longer than a datagram may be.
-/

namespace Syslog

/-- What marks the cuts: the end of a part that goes on, and the beginning of one that continues. -/
structure Markers where
  beginning : Bytes
  ending : Bytes
  deriving DecidableEq, Repr, Inhabited

namespace Markers

/-- Does the datagram continue a message? There is more to it than the mark. -/
def continues (m : Markers) (datagram : Bytes) : Bool :=
  !m.beginning.isEmpty && datagram.length > m.beginning.length &&
    Search.startsWith datagram m.beginning

/-- Does the datagram go on in another one? There is more to it than the mark. -/
def goesOn (m : Markers) (datagram : Bytes) : Bool :=
  !m.ending.isEmpty && datagram.length > m.ending.length && Search.endsWith datagram m.ending

/-- The datagram without the mark at its beginning. -/
def dropBeginning (m : Markers) (datagram : Bytes) : Bytes := datagram.drop m.beginning.length

/-- The datagram without the mark at its end. -/
def dropEnding (m : Markers) (datagram : Bytes) : Bytes :=
  datagram.take (datagram.length - m.ending.length)

end Markers

/-- Splits messages into datagrams, with room for content between two marks. -/
structure Fragmenter where
  markers : Markers
  maxLength : Nat
  room : markers.beginning.length + markers.ending.length < maxLength

namespace Fragmenter

/-- A fragmenter, if the marks leave room. -/
def make (markers : Markers) (maxLength : Nat) : Except TransportError Fragmenter :=
  if room : markers.beginning.length + markers.ending.length < maxLength then
    .ok ⟨markers, maxLength, room⟩
  else
    .error (.invalid ("max message length " ++ toString maxLength ++
      " leaves no room between split markers (" ++ toString markers.beginning.length ++ " + " ++
      toString markers.ending.length ++ " bytes)"))

/-- How much of the message the first part holds. -/
def firstRoom (f : Fragmenter) : Nat := f.maxLength - f.markers.ending.length

/-- How much of the message a part with two marks holds. -/
def middleRoom (f : Fragmenter) : Nat :=
  f.maxLength - f.markers.beginning.length - f.markers.ending.length

/-- The parts after the first. -/
def continuation (f : Fragmenter) (rest : Bytes) : List Bytes :=
  if f.markers.beginning.length + rest.length > f.maxLength then
    (f.markers.beginning ++ rest.take f.middleRoom ++ f.markers.ending) ::
      f.continuation (rest.drop f.middleRoom)
  else [f.markers.beginning ++ rest]
termination_by rest.length
decreasing_by
  have := f.room
  simp only [middleRoom, List.length_drop]
  omega

/-- The datagrams of a message. -/
def split (f : Fragmenter) (payload : Bytes) : List Bytes :=
  if payload.length ≤ f.maxLength then [payload]
  else
    (payload.take f.firstRoom ++ f.markers.ending) :: f.continuation (payload.drop f.firstRoom)

end Fragmenter

end Syslog
