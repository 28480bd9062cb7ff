import SchemaTypes.Text.Basic

/-!
# Sinks

* `Sink`: takes bytes as long as there is room for them.
* `Written`: what a sink has taken.
* **`Sink.write`**: writes texts up to the first that does not fit.
-/

namespace SchemaTypes

/-- What texts are written to. -/
structure Sink where
  -- the number of bytes that there is room for; without a number there is no end
  room : Option Nat := none
deriving DecidableEq, Repr

/-- What a sink has taken of what was written to it. -/
structure Written where
  bytes : List UInt8
  complete : Bool
deriving DecidableEq, Repr

namespace Sink

/-- Is there room for the bytes? -/
def fits (s : Sink) (bytes : List UInt8) : Bool :=
  s.room.all (bytes.length ≤ ·)

/-- The sink when the bytes have been taken. -/
def less (s : Sink) (bytes : List UInt8) : Sink where
  room := s.room.map (· - bytes.length)

/-- The bytes at the start that there is room for. -/
def cut (s : Sink) (bytes : List UInt8) : List UInt8 :=
  match s.room with
  | none => bytes
  | some n => bytes.take n

/-- Writes texts in order. Of the first that does not fit as much is taken as there is room for;
those behind it are not written. -/
def write (s : Sink) : List Text → Written
  | [] => ⟨[], true⟩
  | t :: ts =>
    let bytes := Text.utf8 t
    if s.fits bytes then
      let rest := (s.less bytes).write ts
      ⟨bytes ++ rest.bytes, rest.complete⟩
    else ⟨s.cut bytes, false⟩

end Sink

end SchemaTypes
