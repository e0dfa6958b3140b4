import Rendezvous.Node.Role
import Rendezvous.Text.Decimal
import Rendezvous.Text.Split

/-!
# Node addresses

The address of a node is written `protocol://system` or, when it can be reached from elsewhere,
`protocol://system@host:port`.

## Reading

The text is cut at the first `://`, then at the first `@`; what stands behind the `@` is cut at its
last `:`. Protocol, system and host must not be empty, and the port is a decimal numeral of at most
65535 with an optional `+` in front.
-/

namespace Rendezvous

/-- Where a node can be reached. -/
structure Address where
  protocol : String
  system : String
  host : Option String
  port : Option UInt16
deriving DecidableEq, Repr, Inhabited

namespace Address

/-- An address that names a host can be reached from other hosts. -/
def hasGlobalScope (a : Address) : Bool := a.host.isSome

/-! ## Writing -/

/-- The characters of an address. -/
def chars (a : Address) : List Char :=
  a.protocol.toList ++ [':', '/', '/'] ++ a.system.toList
    ++ (match a.host with | some h => '@' :: h.toList | none => [])
    ++ (match a.port with | some p => ':' :: Decimal.digits p.toNat | none => [])

/-- The text of an address. -/
def text (a : Address) : String := String.ofList a.chars

/-- The diagnostic text of an address. -/
def debugText (a : Address) : String := "Address(" ++ a.text ++ ")"

/-! ## Reading -/

/-- Reads a port: a decimal numeral of at most 65535 with an optional `+` in front. -/
def readPort? (cs : List Char) : Option UInt16 :=
  let numeral := match cs with
    | '+' :: rest => rest
    | _ => cs
  (Decimal.read? numeral).bind fun n => if n < 65536 then some (UInt16.ofNat n) else none

/-- Reads what stands behind the `@`. -/
def readPlace? (cs : List Char) : Option (List Char × UInt16) :=
  (Text.cutAtLast ':' cs).bind fun (host, port) =>
    if host = [] then none else (readPort? port).map (host, ·)

/-- Reads an address from its characters. -/
def ofChars? (cs : List Char) : Option Address :=
  (Text.cutAt [':', '/', '/'] cs).bind fun (protocol, rest) =>
    if protocol = [] then none
    else match Text.cutAt ['@'] rest with
      | none =>
        if rest = [] then none
        else some ⟨String.ofList protocol, String.ofList rest, none, none⟩
      | some (system, place) =>
        if system = [] then none
        else (readPlace? place).map fun (host, port) =>
          ⟨String.ofList protocol, String.ofList system, some (String.ofList host), some port⟩

/-- A text that is no address. -/
structure Malformed where
  text : String
deriving DecidableEq, Repr

/-- The wording of the error. -/
def Malformed.message (e : Malformed) : String := "invalid address: " ++ e.text

/-- Reads an address. -/
def parse (s : String) : Except Malformed Address :=
  match ofChars? s.toList with
  | some a => .ok a
  | none => .error ⟨s⟩

end Address

end Rendezvous
