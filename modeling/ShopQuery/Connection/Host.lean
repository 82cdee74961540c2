import ShopQuery.Connection.Fault
import ShopQuery.Connection.Ipv4
import ShopQuery.Connection.Ipv6
import ShopQuery.DomainName.Basic
import ShopQuery.Text.Percent

/-!
# Hosts

The hosts of urls. A host in brackets is an address of IPv6, and is written in its shortest form.
Any other host is kept as it is, but for octets outside printable ASCII; or it is a domain name or
an address of IPv4, which depends on the scheme of the url.
-/

namespace ShopQuery.Host

open Url (Fault)

/-- A character that no host may hold. -/
def isForbidden (c : Char) : Bool :=
  ['\x00', '\t', '\n', '\r', ' ', '#', '/', ':', '<', '>', '?', '@', '[', '\\', ']', '^',
    '|'].contains c

def ofBrackets (cs : List Char) : Except Fault (List Char) :=
  match if cs.getLast? = some ']' then Ipv6.read? (cs.drop 1).dropLast else none with
  | some groups => .ok (Ipv6.write groups)
  | none => .error .invalidIpv6

def ofPlain (cs : List Char) : Except Fault (List Char) :=
  match cs with
  | '[' :: _ => ofBrackets cs
  | _ =>
    if cs.any isForbidden then .error .invalidDomainCharacter
    else .ok (Percent.escape Percent.isPrintable cs)

/-- A host that is a domain name or an address. Escapes are undone before the name is read. -/
def ofName (cs : List Char) : Except Fault (List Char) :=
  match cs with
  | '[' :: _ => ofBrackets cs
  | _ =>
    match DomainName.read? (Utf8.decodeLossy (Percent.unescape (Utf8.encodeChars cs))).toList with
    | none => .error .invalidInternationalName
    | some labels =>
      let name := ['.'].intercalate labels
      if name.isEmpty then .error .emptyHost
      else if Ipv4.endsInNumber name && !Ipv4.isAddress name then .error .invalidIpv4
      else .ok name

end ShopQuery.Host
