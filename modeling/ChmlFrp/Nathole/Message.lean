/-
# ChmlFrp.Nathole.Message — the messages of a NAT hole

`pkg/msg/msg.go`: what a visitor and a proxy send to the server, and what it answers.  Names
and ids are only compared; the addresses are read byte by byte.
-/
import ChmlFrp.Lib.GoString
import ChmlFrp.Nathole.Analysis

namespace ChmlFrp.Nathole

set_option autoImplicit false

universe u

open ChmlFrp.Lib

structure NatHoleVisitor where
  transactionID : String
  proxyName : String
  preCheck : Bool
  protocol : GoString
  signKey : String
  timestamp : Int
  mappedAddrs : List GoString
  assistedAddrs : List GoString
  deriving DecidableEq, Repr

structure NatHoleClient where
  transactionID : String
  proxyName : String
  sid : String
  mappedAddrs : List GoString
  assistedAddrs : List GoString
  deriving DecidableEq, Repr

structure PortsRange where
  start : Int
  stop : Int
  deriving DecidableEq, Repr

structure NatHoleDetectBehavior where
  role : DetectRole := .none
  mode : Nat := 0
  ttl : Nat := 0
  sendDelayMs : Nat := 0
  readTimeoutMs : Nat := 0
  candidatePorts : List PortsRange := []
  sendRandomPorts : Nat := 0
  listenRandomPorts : Nat := 0
  deriving DecidableEq, Repr

/-- The error is a text, or what the text is made from. -/
structure NatHoleResp (Error : Type u) where
  transactionID : String
  sid : String := ""
  protocol : GoString := []
  candidateAddrs : List GoString := []
  assistedAddrs : List GoString := []
  detectBehavior : NatHoleDetectBehavior := {}
  error : Error
  deriving DecidableEq, Repr

end ChmlFrp.Nathole
