import ClusterLink.Node.Capabilities
import ClusterLink.Wire.Gossip

/-!
# The capabilities reply on the wire

A node answers a question about its capabilities with the methods it serves and its version. The
rules are those of the gossip reply: defaults are not written, the last version wins, methods and
features are appended in order.
-/

namespace ClusterLink.Wire

/-! ## Writing -/

/-- The fields of one supported method. An empty feature is written all the same, since its presence
counts. -/
def methodFields (m : SupportedMethod) : List Field :=
  textField 1 m.method ++ textField 2 m.service
    ++ m.features.map fun f => ⟨3, .bytes f.toUTF8.data.toList⟩

def encodeMethod (m : SupportedMethod) : List UInt8 := encodeFields (methodFields m)

def methodLength (m : SupportedMethod) : Nat :=
  textFieldLength 1 m.method + textFieldLength 2 m.service
    + totalLength (m.features.map fun f => bytesFieldLength 3 f.utf8ByteSize)

def methodTableFields (t : MethodTable) : List Field :=
  t.methods.map (fun m => ⟨1, .bytes (encodeMethod m)⟩) ++ textField 2 t.version

/-- **The bytes of a capabilities reply.** -/
def encodeMethodTable (t : MethodTable) : List UInt8 := encodeFields (methodTableFields t)

/-- **How many bytes a capabilities reply takes**, computed without writing it. -/
def methodTableLength (t : MethodTable) : Nat :=
  totalLength (t.methods.map fun m => bytesFieldLength 1 (methodLength m))
    + textFieldLength 2 t.version

/-! ## Reading -/

/-- Takes in one field of a supported method. -/
def applyMethodField (m : SupportedMethod) (f : Field) : Option SupportedMethod :=
  match f.number with
  | 1 => f.payload.text?.map fun s => { m with method := s }
  | 2 => f.payload.text?.map fun s => { m with service := s }
  | 3 => f.payload.text?.map fun s => { m with features := m.features ++ [s] }
  | _ => some m

/-- Reads a supported method. -/
def decodeMethod (depth : Nat) (bs : List UInt8) : Option SupportedMethod :=
  (readFields depth bs).bind fun fs => fs.foldlM applyMethodField ⟨"", "", []⟩

/-- Takes in one field of a capabilities reply. -/
def applyMethodTableField (t : MethodTable) (f : Field) : Option MethodTable :=
  match f.number with
  | 1 =>
    match f.payload with
    | .bytes bs =>
      (decodeMethod (nestingLimit - 1) bs).map fun m => { t with methods := t.methods ++ [m] }
    | _ => none
  | 2 => f.payload.text?.map fun s => { t with version := s }
  | _ => some t

/-- **Reads a capabilities reply.** -/
def decodeMethodTable (bs : List UInt8) : Option MethodTable :=
  (readFields nestingLimit bs).bind fun fs => fs.foldlM applyMethodTableField ⟨[], ""⟩

end ClusterLink.Wire
