import ClusterLink.Text.Blank
import ClusterLink.Text.Case
import ClusterLink.Text.Numeral
import ClusterLink.Text.Split

/-!
# Endpoints of cluster members

An endpoint is a host and a port, and names one node of the cluster. Hosts compare without regard
to ASCII case, so `NODE-1:2113` and `node-1:2113` are one node and share one connection, while the
spelling is kept for display. `EndPoint.key` is what is compared; `EndPoint.hashBytes` are the
bytes a hash table is fed.

Endpoints are written `host:port`, with the host in brackets when it holds a colon, and read from
that form, from a bracketed address, and from an `http` or `https` address without a path.
-/

namespace ClusterLink

/-- **A network address of a node.** -/
structure EndPoint where
  host : String
  port : UInt16
  deriving DecidableEq, Repr, Inhabited

namespace EndPoint

/-! ## Identity -/

/-- What identifies a node: the host without case, and the port. -/
def key (e : EndPoint) : List Char × UInt16 :=
  (Text.foldCase e.host.toList, e.port)

/-- Whether two endpoints name the same node. -/
def same (e f : EndPoint) : Bool :=
  e.port == f.port && Text.equalIgnoringCase e.host f.host

/-- An ASCII capital as its small letter; other bytes as they are. -/
def foldByte (b : UInt8) : UInt8 :=
  if 'A'.toUInt8 ≤ b ∧ b ≤ 'Z'.toUInt8 then b + 32 else b

/-- **The bytes a hash table is fed**: the host without case, then the two bytes of the port, the
low one first. No length and no separator stands between them. -/
def hashBytes (e : EndPoint) : List UInt8 :=
  e.host.toUTF8.data.toList.map foldByte ++ [e.port.toUInt8, (e.port >>> 8).toUInt8]

theorem same_iff {e f : EndPoint} : e.same f = true ↔ e.key = f.key := by
  simp [same, key, Text.equalIgnoringCase_iff, and_comm]

@[simp] theorem same_refl (e : EndPoint) : e.same e = true := same_iff.2 rfl

theorem same_symm {e f : EndPoint} (h : e.same f = true) : f.same e = true :=
  same_iff.2 (same_iff.1 h).symm

theorem same_trans {e f g : EndPoint} (h : e.same f = true) (h' : f.same g = true) :
    e.same g = true :=
  same_iff.2 ((same_iff.1 h).trans (same_iff.1 h'))

/-- Keeps of each node the first endpoint that names it, in order. -/
def distinct (es : List EndPoint) : List EndPoint :=
  es.foldl (fun kept e => if kept.any (·.same e) then kept else kept ++ [e]) []

/-! ## Writing -/

/-- **The written form**, `host:port`; a host with a colon stands in brackets. -/
def display (e : EndPoint) : String :=
  if ':' ∈ e.host.toList then "[" ++ e.host ++ "]:" ++ toString e.port.toNat
  else e.host ++ ":" ++ toString e.port.toNat

/-- The address of the node's service. -/
def uri (e : EndPoint) (tls : Bool) : String :=
  (if tls then "https" else "http") ++ "://" ++ e.display

instance : ToString EndPoint := ⟨display⟩

/-! ## Reading -/

/-- Why an address cannot be used. -/
inductive Flaw where
  | unterminatedLiteral
  | missingPort
  | emptyHost
  | unexpectedPath
  | invalidPort (cause : Text.NumeralError)
  | portOutOfRange
  deriving DecidableEq, Repr

def Flaw.message : Flaw → String
  | .unterminatedLiteral => "unterminated IPv6 literal"
  | .missingPort => "missing port"
  | .emptyHost => "empty host"
  | .unexpectedPath => "unexpected path component"
  | .invalidPort cause => "invalid port: " ++ cause.message
  | .portOutOfRange => "port out of range"

/-- Drops the scheme of a web address. -/
def dropScheme (cs : List Char) : List Char :=
  match Text.afterStart? "http://".toList cs with
  | some rest => rest
  | none => (Text.afterStart? "https://".toList cs).getD cs

/-- Divides an authority into host and port text. A bracketed host ends at the first closing
bracket, any other at the last colon. -/
def splitAuthority : List Char → Except Flaw (List Char × List Char)
  | '[' :: rest =>
    match Text.splitFirst? ']' rest with
    | none => .error .unterminatedLiteral
    | some (host, ':' :: port) => .ok (host, port)
    | some _ => .error .missingPort
  | cs =>
    match Text.splitLast? ':' cs with
    | none => .error .missingPort
    | some parts => .ok parts

/-- Whether the character starts a path, a query or a fragment. -/
def startsPath (c : Char) : Bool :=
  c == '/' || c == '?' || c == '#'

/-- Reads a port number. -/
def readPort (cs : List Char) : Except Text.NumeralError UInt16 :=
  (Text.readNumeral 65535 cs).map UInt16.ofNat

/-- **Reads an endpoint** from `host:port`, `[host]:port`, or a web address without a path. Blanks
around it and slashes after it are dropped. -/
def ofChars (cs : List Char) : Except Flaw EndPoint :=
  match splitAuthority (Text.dropEndWhile (· == '/') (dropScheme (Text.trim cs))) with
  | .error flaw => .error flaw
  | .ok (host, port) =>
    if host.isEmpty then .error .emptyHost
    else if host.any startsPath then .error .unexpectedPath
    else match readPort port with
      | .error cause => .error (.invalidPort cause)
      | .ok number => .ok ⟨String.ofList host, number⟩

@[inherit_doc ofChars]
def parse (s : String) : Except Flaw EndPoint := ofChars s.toList

/-- **The endpoint of an address reported by a node**: the host must not be empty, and the port
must fit into sixteen bits. -/
def ofAddress (host : String) (port : Nat) : Except Flaw EndPoint :=
  if host.isEmpty then .error .emptyHost
  else if port < 65536 then .ok ⟨host, UInt16.ofNat port⟩
  else .error .portOutOfRange

end EndPoint

end ClusterLink
