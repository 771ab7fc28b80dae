/-!
# Attribute kinds

The attributes this library knows by name. Any other attribute is carried
unchanged under its number. A kind says how its value is to be read: as text, as
a 32-bit integer, or not at all in records because it proves a secret.
-/

set_option autoImplicit false

namespace RadiusSentry.Attribute

/-- An attribute known by name. -/
inductive Kind
  | userName
  | userPassword
  | chapPassword
  | nasIpAddress
  | nasPort
  | serviceType
  | replyMessage
  | state
  | classId
  | vendorSpecific
  | sessionTimeout
  | calledStationId
  | callingStationId
  | nasIdentifier
  | proxyState
  | acctStatusType
  | acctDelayTime
  | acctInputOctets
  | acctOutputOctets
  | acctSessionId
  | acctSessionTime
  | acctTerminateCause
  | chapChallenge
  | nasPortType
  | eapMessage
  | messageAuthenticator
deriving DecidableEq, Repr

namespace Kind

/-- The number on the wire. -/
def number : Kind → UInt8
  | .userName => 1
  | .userPassword => 2
  | .chapPassword => 3
  | .nasIpAddress => 4
  | .nasPort => 5
  | .serviceType => 6
  | .replyMessage => 18
  | .state => 24
  | .classId => 25
  | .vendorSpecific => 26
  | .sessionTimeout => 27
  | .calledStationId => 30
  | .callingStationId => 31
  | .nasIdentifier => 32
  | .proxyState => 33
  | .acctStatusType => 40
  | .acctDelayTime => 41
  | .acctInputOctets => 42
  | .acctOutputOctets => 43
  | .acctSessionId => 44
  | .acctSessionTime => 46
  | .acctTerminateCause => 49
  | .chapChallenge => 60
  | .nasPortType => 61
  | .eapMessage => 79
  | .messageAuthenticator => 80

/-- The name used in records. -/
def name : Kind → String
  | .userName => "User-Name"
  | .userPassword => "User-Password"
  | .chapPassword => "CHAP-Password"
  | .nasIpAddress => "NAS-IP-Address"
  | .nasPort => "NAS-Port"
  | .serviceType => "Service-Type"
  | .replyMessage => "Reply-Message"
  | .state => "State"
  | .classId => "Class"
  | .vendorSpecific => "Vendor-Specific"
  | .sessionTimeout => "Session-Timeout"
  | .calledStationId => "Called-Station-Id"
  | .callingStationId => "Calling-Station-Id"
  | .nasIdentifier => "NAS-Identifier"
  | .proxyState => "Proxy-State"
  | .acctStatusType => "Acct-Status-Type"
  | .acctDelayTime => "Acct-Delay-Time"
  | .acctInputOctets => "Acct-Input-Octets"
  | .acctOutputOctets => "Acct-Output-Octets"
  | .acctSessionId => "Acct-Session-Id"
  | .acctSessionTime => "Acct-Session-Time"
  | .acctTerminateCause => "Acct-Terminate-Cause"
  | .chapChallenge => "CHAP-Challenge"
  | .nasPortType => "NAS-Port-Type"
  | .eapMessage => "EAP-Message"
  | .messageAuthenticator => "Message-Authenticator"

def all : List Kind :=
  [.userName, .userPassword, .chapPassword, .nasIpAddress, .nasPort, .serviceType,
    .replyMessage, .state, .classId, .vendorSpecific, .sessionTimeout, .calledStationId,
    .callingStationId, .nasIdentifier, .proxyState, .acctStatusType, .acctDelayTime,
    .acctInputOctets, .acctOutputOctets, .acctSessionId, .acctSessionTime,
    .acctTerminateCause, .chapChallenge, .nasPortType, .eapMessage, .messageAuthenticator]

def ofNumber? (n : UInt8) : Option Kind :=
  all.find? fun k => k.number == n

def isText : Kind → Bool
  | .userName | .replyMessage | .calledStationId | .callingStationId | .nasIdentifier
  | .acctSessionId => true
  | _ => false

def isInteger : Kind → Bool
  | .nasPort | .serviceType | .sessionTimeout | .acctStatusType | .acctDelayTime
  | .acctInputOctets | .acctOutputOctets | .acctSessionTime | .acctTerminateCause
  | .nasPortType => true
  | _ => false

/-- Whether the value must stay out of every record. -/
def isSensitive : Kind → Bool
  | .userPassword | .chapPassword | .messageAuthenticator => true
  | _ => false

@[simp] theorem ofNumber?_number (k : Kind) : ofNumber? k.number = some k := by
  cases k <;> rfl

theorem number_of_ofNumber? {n : UInt8} {k : Kind} (h : ofNumber? n = some k) : k.number = n := by
  simpa using List.find?_some h

end Kind

/-- What an Accounting-Request reports. -/
inductive AcctStatus
  | start
  | stop
  | interimUpdate
  | accountingOn
  | accountingOff
deriving DecidableEq, Repr

namespace AcctStatus

/-- The value of Acct-Status-Type. -/
def number : AcctStatus → UInt32
  | .start => 1
  | .stop => 2
  | .interimUpdate => 3
  | .accountingOn => 7
  | .accountingOff => 8

/-- The name used in records. -/
def name : AcctStatus → String
  | .start => "Start"
  | .stop => "Stop"
  | .interimUpdate => "Interim-Update"
  | .accountingOn => "Accounting-On"
  | .accountingOff => "Accounting-Off"

def ofNumber? (n : UInt32) : Option AcctStatus :=
  [start, stop, interimUpdate, accountingOn, accountingOff].find? fun s => s.number == n

end AcctStatus

end RadiusSentry.Attribute
