import Arp.Common.Error

/-!
# Messages

The messages of the control and work connections, field by field.  The free
part of a `NewProxy` message is a JSON value; the server only ever looks up
string fields of objects in it.
-/

namespace Arp.Common

/-- `serde_json::Value`.  A number is kept as the text it was written as. -/
inductive Json where
  | null
  | bool (b : Bool)
  | number (text : String)
  | string (s : String)
  | array (items : List Json)
  | object (fields : List (String × Json))

namespace Json

/-- `Value::as_str`. -/
def asStr : Json → Option String
  | string s => some s
  | _ => none

/-- `Value::as_object`. -/
def asObject : Json → Option (List (String × Json))
  | object fields => some fields
  | _ => none

end Json

/-- `LoginMsg`. -/
structure LoginMsg where
  version : String
  hostname : String
  os : String
  arch : String
  user : String
  clientId : String
  timestamp : Int64
  privilegeKey : String
  runId : String
  poolCount : UInt32

/-- `LoginRespMsg`. -/
structure LoginRespMsg where
  version : String
  runId : String
  error : String

/-- `NewProxyMsg`. -/
structure NewProxyMsg where
  proxyName : String
  proxyType : String
  useEncryption : Bool
  useCompression : Bool
  localIp : String
  localPort : UInt16
  remotePort : UInt16
  customDomains : List String
  subdomain : String
  locations : List String
  hostHeaderRewrite : String
  sk : String
  multiplexer : String
  fallbackToRelay : Bool
  extra : Json

/-- `NewProxyRespMsg`. -/
structure NewProxyRespMsg where
  proxyName : String
  remoteAddr : String
  error : String
deriving DecidableEq, Repr

/-- `NewWorkConnMsg`. -/
structure NewWorkConnMsg where
  runId : String
  privilegeKey : String

/-- `StartWorkConnMsg`. -/
structure StartWorkConnMsg where
  proxyName : String
  srcAddr : String
  dstAddr : String
  error : String

/-- `UdpPacketMsg`. -/
structure UdpPacketMsg where
  content : List UInt8
  localAddr : String
  remoteAddr : String

/-- `NatHoleVisitorMsg`. -/
structure NatHoleVisitorMsg where
  proxyName : String
  signedMsg : String

/-- `NatHoleClientMsg`. -/
structure NatHoleClientMsg where
  proxyName : String
  visitorAddr : String

/-- `NatHoleRespMsg`. -/
structure NatHoleRespMsg where
  visitorAddr : String
  clientAddr : String
  relayAddr : String
  error : String

/-- `StcpVisitorConnMsg`. -/
structure StcpVisitorConnMsg where
  proxyName : String
  skSignature : String
  timestamp : Int64

/-- `Message`. -/
inductive Message where
  | login (msg : LoginMsg)
  | loginResp (msg : LoginRespMsg)
  | newProxy (msg : NewProxyMsg)
  | newProxyResp (msg : NewProxyRespMsg)
  | closeProxy (proxyName : String)
  | reqWorkConn (proxyName : String)
  | newWorkConn (msg : NewWorkConnMsg)
  | startWorkConn (msg : StartWorkConnMsg)
  | ping (timestamp : Int64)
  | pong (timestamp : Int64)
  | udpPacket (msg : UdpPacketMsg)
  | natHoleVisitor (msg : NatHoleVisitorMsg)
  | natHoleClient (msg : NatHoleClientMsg)
  | natHoleResp (msg : NatHoleRespMsg)
  | stcpVisitorConn (msg : StcpVisitorConnMsg)

namespace Message

/-- `Message::type_byte`. -/
def typeByte : Message → Char
  | login _ => 'o'
  | loginResp _ => '1'
  | newProxy _ => 'p'
  | newProxyResp _ => '2'
  | closeProxy _ => 'c'
  | reqWorkConn _ => 'r'
  | newWorkConn _ => 'w'
  | startWorkConn _ => 's'
  | ping _ => 'h'
  | pong _ => '4'
  | udpPacket _ => 'u'
  | natHoleVisitor _ => 'i'
  | natHoleClient _ => 'n'
  | natHoleResp _ => 'm'
  | stcpVisitorConn _ => 'v'

/-- `Message::from_type_byte`. -/
def fromTypeByte : Char → Option String
  | 'o' => some "Login"
  | '1' => some "LoginResp"
  | 'p' => some "NewProxy"
  | '2' => some "NewProxyResp"
  | 'c' => some "CloseProxy"
  | 'r' => some "ReqWorkConn"
  | 'w' => some "NewWorkConn"
  | 's' => some "StartWorkConn"
  | 'h' => some "Ping"
  | '4' => some "Pong"
  | 'u' => some "UdpPacket"
  | 'i' => some "NatHoleVisitor"
  | 'n' => some "NatHoleClient"
  | 'm' => some "NatHoleResp"
  | 'v' => some "StcpVisitorConn"
  | _ => none

end Message

end Arp.Common
