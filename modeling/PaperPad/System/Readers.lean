import PaperPad.Host.Inbound
import PaperPad.Device.Inbound

/-!
# System — Readers

The two readers of a connection, each over every byte stream.

`readers_exact`: the session reader of the host and the frame reader of the device accept exactly
their grammars, stop with the messages of the longest word in front otherwise, and no read goes
past the message it reads.
-/

namespace PaperPad.System

open Protocol StreamReader Host
open Device.Inbound (FrameEncoding readFrames readInboundFrame readInboundFrame_confined)

/-- The words of a session: nothing, or the encoding of a Hello and those of pointer and viewport
messages behind it. -/
abbrev SessionWord : Option V2Hello × List SessionMessage → List UInt8 → Prop :=
  ThenWords HelloEncoding SessionEncoding

/-- **The readers accept exactly their grammars.** -/
theorem readers_exact [Platform] (stream : List UInt8) :
    Accepts SessionWord stream (readSession ⟨stream, 0⟩) ∧
      Accepts (Words FrameEncoding) stream (readFrames ⟨stream, 0⟩) ∧
      Confined readSessionHello ∧ Confined readSessionMessage ∧ Confined readInboundFrame :=
  ⟨helloReader.readThen_accepts sessionReader stream,
    Device.Inbound.frameReader.readAll_accepts stream,
    readSessionHello_confined, readSessionMessage_confined, readInboundFrame_confined⟩

end PaperPad.System
