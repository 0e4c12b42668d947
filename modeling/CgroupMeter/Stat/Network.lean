import CgroupMeter.Counter
import CgroupMeter.Stat.Error
import CgroupMeter.Text.Blank
import CgroupMeter.Text.Split

/-!
# Network counters

The file `net/dev` of a process has two header lines and then a line for each
network interface: its name, a colon, and counters at fixed positions.  The
counters are summed over all interfaces but the loopback ones.  A counter that
is no number counts zero.
-/

namespace CgroupMeter

/-- Network counters, summed over interfaces. -/
structure NetworkStat where
  receivedBytes : Counter
  receivedPackets : Counter
  receiveErrors : Counter
  receiveDropped : Counter
  sentBytes : Counter
  sentPackets : Counter
  sendErrors : Counter
  sendDropped : Counter
  deriving DecidableEq, Inhabited

namespace NetworkStat

/-- No traffic at all. -/
def zero : NetworkStat := ⟨0, 0, 0, 0, 0, 0, 0, 0⟩

/-- The traffic of two sets of interfaces together. -/
def add (left right : NetworkStat) : NetworkStat where
  receivedBytes := Counter.add left.receivedBytes right.receivedBytes
  receivedPackets := Counter.add left.receivedPackets right.receivedPackets
  receiveErrors := Counter.add left.receiveErrors right.receiveErrors
  receiveDropped := Counter.add left.receiveDropped right.receiveDropped
  sentBytes := Counter.add left.sentBytes right.sentBytes
  sentPackets := Counter.add left.sentPackets right.sentPackets
  sendErrors := Counter.add left.sendErrors right.sendErrors
  sendDropped := Counter.add left.sendDropped right.sendDropped

/-- Interfaces whose name starts so carry no traffic of the group. -/
def loopbackStart : List Char := ['l', 'o']

/-- Counters a line needs to reach the last one that is read. -/
def neededCounters : Nat := 12

/-- Lines before the first interface. -/
def headerLines : Nat := 2

/-- What a line says. -/
inductive LineMeaning where
  | blank
  | loopback
  | traffic (stat : NetworkStat)
  | malformed
  deriving DecidableEq

/-- The counter at a position. -/
def counterAt (counters : List String) (position : Nat) : Counter :=
  match counters[position]? with
  | none => 0
  | some text => (Numeral.readUInt64 text).toOption.getD 0

/-- The traffic that the counters of a line tell. -/
def ofCounters (counters : List String) : NetworkStat where
  receivedBytes := counterAt counters 0
  receivedPackets := counterAt counters 1
  receiveErrors := counterAt counters 2
  receiveDropped := counterAt counters 3
  sentBytes := counterAt counters 8
  sentPackets := counterAt counters 9
  sendErrors := counterAt counters 10
  sendDropped := counterAt counters 11

/-- The meaning of a line after the headers. -/
def meaning (text : String) : LineMeaning :=
  let trimmed := Text.trim text
  match Text.cut ':' trimmed with
  | none => if trimmed = "" then .blank else .malformed
  | some (name, data) =>
      if loopbackStart.isPrefixOf (Text.trim name).toList then .loopback
      else if neededCounters ≤ (Text.words data).length then
        .traffic (ofCounters (Text.words data))
      else .malformed

/-- The traffic that a line adds. -/
def LineMeaning.stat : LineMeaning → NetworkStat
  | .traffic stat => stat
  | _ => zero

/-- The traffic that lines tell together. -/
def total (texts : List String) : NetworkStat :=
  texts.foldl (fun sum text => add sum (meaning text).stat) zero

/-- Report a line that tells nothing. -/
def reportMalformed (text : String) : Inquiry Unit :=
  match meaning text with
  | .malformed =>
      Inquiry.report .debug
        s!"Skipping malformed network stats line: `{Text.trim text}`"
  | _ => pure ()

/-- Read a `net/dev` file. -/
def read (lines : Lines) : Inquiry (Except ReadFault NetworkStat) := do
  let texts := lines.texts.drop headerLines
  texts.forM reportMalformed
  return lines.finish (total texts)

end NetworkStat

end CgroupMeter
