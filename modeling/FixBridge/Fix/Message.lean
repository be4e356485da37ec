import FixBridge.Shared.Routes

/-! FIX messages as the session sees them: headers, inbound frames and outbound values. -/

namespace FixBridge

/-- The protocol versions that a header can name. -/
inductive Version where
  | fix44
  | other (value : String)
  deriving DecidableEq, Repr

/-- `fix::MsgType`, with one case for the types that the session never mentions. -/
inductive MsgType where
  | logon | logout | testRequest | resendRequest | reject | heartbeat
  | tradingSessionStatusRequest
  | securityListRequest | securityDefinitionRequest | securityStatusRequest | marketDataRequest
  | userRequest
  | orderStatusRequest | orderMassStatusRequest | newOrderSingle | orderCancelRequest
  | orderCancelReplaceRequest | orderMassCancelRequest
  | tradeCaptureReportRequest
  | requestForPositions
  | massQuote | quoteCancel
  | businessMessageReject | userResponse
  | tradingSessionStatus | securityList | securityDefinition | securityStatus
  | marketDataRequestReject | marketDataSnapshotFullRefresh | marketDataIncrementalRefresh
  | executionReport | orderCancelReject | orderMassCancelReport
  | tradeCaptureReportRequestAck | tradeCaptureReport
  | requestForPositionsAck | positionReport
  | massQuoteAck | quoteStatusReport
  | other (value : String)
  deriving DecidableEq, Repr

/-- `fix::Header`. -/
structure Header where
  version : Version
  msgType : MsgType
  senderCompId : String
  targetCompId : String
  msgSeqNum : UInt64
  /-- Nanoseconds since the epoch. -/
  sendingTime : Int
  deriving DecidableEq, Repr

/-- `fix::Message`: a header and the fields that follow it. -/
structure Message where
  header : Header
  fields : List (Nat × String)
  deriving DecidableEq, Repr

/-- `fix::UserRequestType`. -/
inductive UserRequestType where
  | undefined | unknown | logOnUser | logOffUser | changePasswordForUser
  | requestIndividualUserStatus
  deriving DecidableEq, Repr

/-- The fields of `fix::codec::UserRequest` that the session reads. -/
structure UserRequest where
  userRequestId : String
  userRequestType : UserRequestType
  username : String
  deriving DecidableEq, Repr

/-- `fix::UserStatus`, as far as the session answers with it. -/
inductive UserStatus where
  | loggedIn | notLoggedIn | other
  deriving DecidableEq, Repr

/-- `fix::codec::UserResponse`. -/
structure UserResponse where
  userRequestId : String
  username : String
  userStatus : UserStatus
  userStatusText : String
  deriving DecidableEq, Repr

/-- `fix::BusinessRejectReason`, as far as the session answers with it. -/
inductive BusinessRejectReason where
  | unsupportedMessageType
  | other (value : Nat)
  deriving DecidableEq, Repr

/-- `fix::codec::BusinessMessageReject`. -/
structure BusinessMessageReject where
  refSeqNum : UInt64
  refMsgType : MsgType
  businessRejectRefId : String
  businessRejectReason : BusinessRejectReason
  text : String
  deriving DecidableEq, Repr

/-- The fields of `fix::codec::ExecutionReport` that say to whom it belongs, and the rest. -/
structure ExecutionReport where
  account : String
  /-- The strategy that the party group identifies. -/
  strategyId : StrategyId
  fields : List (Nat × String)
  deriving DecidableEq, Repr

/-- `fix::codec::Error`, as far as the sources mention it. -/
inductive Error where
  | undefined | noOrders | noTrades
  | unexpectedMsgType | unsupportedUserRequestType
  | invalidUsername | invalidComponent | invalidPassword
  deriving DecidableEq, Repr

/-- `get_text`: most errors are spelled as the enumeration spells them. -/
def Error.getText : Error → String
  | .undefined => ""
  | .noOrders => "NO ORDERS"
  | .noTrades => "NO TRADES"
  | .unexpectedMsgType => "UNEXPECTED_MSG_TYPE"
  | .unsupportedUserRequestType => "UNSUPPORTED_USER_REQUEST_TYPE"
  | .invalidUsername => "INVALID_USERNAME"
  | .invalidComponent => "INVALID_COMPONENT"
  | .invalidPassword => "INVALID_PASSWORD"

/-- A value that a session sends to its client. -/
inductive Outbound where
  /-- The reply to a Logon that the bridge accepted for the named user. -/
  | logon (username : String)
  | logout (text : String)
  | businessMessageReject (value : BusinessMessageReject)
  | userResponse (value : UserResponse)
  | executionReport (value : ExecutionReport)
  /-- The remaining types, which the session forwards without looking at them. -/
  | message (msgType : MsgType) (fields : List (Nat × String))
  deriving DecidableEq, Repr

/-- `T::MSG_TYPE`. -/
def Outbound.msgType : Outbound → MsgType
  | .logon _ => .logon
  | .logout _ => .logout
  | .businessMessageReject _ => .businessMessageReject
  | .userResponse _ => .userResponse
  | .executionReport _ => .executionReport
  | .message msgType _ => msgType

/-- The inbound types for which `parse_helper` has a case. -/
def MsgType.supported : MsgType → Bool
  | .logon | .logout | .testRequest | .resendRequest | .reject | .heartbeat
  | .tradingSessionStatusRequest
  | .securityListRequest | .securityDefinitionRequest | .securityStatusRequest
  | .marketDataRequest
  | .userRequest
  | .orderStatusRequest | .orderMassStatusRequest | .newOrderSingle | .orderCancelRequest
  | .orderCancelReplaceRequest | .orderMassCancelRequest
  | .tradeCaptureReportRequest
  | .requestForPositions
  | .massQuote | .quoteCancel => true
  | _ => false

/-- `User`, one client of the configuration. -/
structure User where
  userId : UInt16
  component : String
  username : String
  password : String
  strategyId : StrategyId
  account : String
  accountsRegex : List String
  symbolsRegex : List String
  deriving DecidableEq, Repr

/-- `CancelAllOrders`; an absent filter applies to all orders. -/
structure CancelAllOrders where
  account : String
  orderId : Option UInt64 := none
  exchange : String := ""
  symbol : String := ""
  strategyId : Option StrategyId := none
  side : Option String := none
  deriving DecidableEq, Repr

end FixBridge
