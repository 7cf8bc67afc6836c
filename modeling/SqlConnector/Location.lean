import SqlConnector.Text.Cut
import SqlConnector.Text.Numeral

/-!
Where the engine answers, as a host name and a port. The text of a location may open with the
scheme and close with slashes; the port stands after its last colon, and a text without a colon
takes the default one.
-/

namespace SqlConnector

structure Location where
  hostname : String
  port : UInt16
  deriving DecidableEq, Repr

inductive HostFault where
  | portNotNumber
  | hostnameEmpty
  deriving DecidableEq, Repr

def HostFault.reason : HostFault → String
  | portNotNumber => "port is not a number"
  | hostnameEmpty => "hostname is empty"

namespace Location

def toText (l : Location) : String := l.hostname ++ ":" ++ toString l.port.toNat

/-- The host name and port of a text without its scheme and trailing slashes. -/
def address (host : List Char) : List Char :=
  Text.dropTrailing '/' ((Text.dropLead? "http://".toList host).getD host)

def port? (s : List Char) : Option UInt16 := (Text.plusUnsigned? UInt16.size s).map UInt16.ofNat

/-- A port that is no number is found before a host name that is empty. -/
def split (defaultPort : UInt16) (address : List Char) : Except HostFault Location :=
  match Text.cutLast ':' address with
  | some (hostname, port) =>
    match port? port with
    | none => .error .portNotNumber
    | some port =>
      if hostname = [] then .error .hostnameEmpty else .ok ⟨String.ofList hostname, port⟩
  | none =>
    if address = [] then .error .hostnameEmpty else .ok ⟨String.ofList address, defaultPort⟩

def parse (host : String) (defaultPort : UInt16) : Except HostFault Location :=
  split defaultPort (address host.toList)

end Location

/-- What answers with a location when a query is sent. -/
inductive Locator where
  | fixed (location : Location)
  | failing (reason : String)
  deriving DecidableEq, Repr

def Locator.locate : Locator → Except String Location
  | fixed location => .ok location
  | failing reason => .error reason

end SqlConnector
