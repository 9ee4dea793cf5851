/-
# ChmlFrp.Config.Proxy — proxy settings and their way over the wire

`pkg/config/proxy.go`: the settings of the eight types of proxies, the checks that
client and server make of them, and the message `NewProxy` that carries them.  A slice
or a map that is nil is an empty list here, and a map is the list of its entries.

* `newProxyConfFromMsg_marshalToMsg`: what the server makes of the message.
* `conf_survives_wire`: a configuration that both sides accept arrives as it was sent,
  with the settings that only the client uses left at their defaults.
-/
import ChmlFrp.Config.Types

namespace ChmlFrp.Config

set_option autoImplicit false

open ChmlFrp.Lib

def tcpProxy : GoString := GoString.lit "tcp"
def udpProxy : GoString := GoString.lit "udp"
def tcpMuxProxy : GoString := GoString.lit "tcpmux"
def httpProxy : GoString := GoString.lit "http"
def httpsProxy : GoString := GoString.lit "https"
def stcpProxy : GoString := GoString.lit "stcp"
def xtcpProxy : GoString := GoString.lit "xtcp"
def sudpProxy : GoString := GoString.lit "sudp"

def httpConnectTCPMultiplexer : GoString := GoString.lit "httpconnect"

/-- `msg.NewProxy` -/
structure NewProxy where
  proxyName : GoString := []
  proxyType : GoString := []
  useEncryption : Bool := false
  useCompression : Bool := false
  bandwidthLimit : GoString := []
  bandwidthLimitMode : GoString := []
  group : GoString := []
  groupKey : GoString := []
  metas : List (GoString × GoString) := []
  remotePort : Int := 0
  customDomains : List GoString := []
  subDomain : GoString := []
  locations : List GoString := []
  httpUser : GoString := []
  httpPwd : GoString := []
  hostHeaderRewrite : GoString := []
  headers : List (GoString × GoString) := []
  routeByHTTPUser : GoString := []
  sk : GoString := []
  allowUsers : List GoString := []
  multiplexer : GoString := []
  deriving DecidableEq, Repr

/-! ## The settings -/

structure LocalSvrConf where
  localIP : GoString := []
  localPort : Int := 0
  plugin : GoString := []
  pluginParams : List (GoString × GoString) := []
  deriving DecidableEq, Repr

structure HealthCheckConf where
  healthCheckType : GoString := []
  healthCheckTimeoutS : Int := 0
  healthCheckMaxFailed : Int := 0
  healthCheckIntervalS : Int := 0
  healthCheckURL : GoString := []
  healthCheckAddr : GoString := []
  deriving DecidableEq, Repr

structure BaseProxyConf where
  proxyName : GoString := []
  proxyType : GoString := []
  useEncryption : Bool := false
  useCompression : Bool := false
  group : GoString := []
  groupKey : GoString := []
  proxyProtocolVersion : GoString := []
  bandwidthLimit : BandwidthQuantity := {}
  bandwidthLimitMode : GoString := []
  metas : List (GoString × GoString) := []
  localSvr : LocalSvrConf := {}
  healthCheck : HealthCheckConf := {}
  deriving DecidableEq, Repr

structure DomainConf where
  customDomains : List GoString := []
  subDomain : GoString := []
  deriving DecidableEq, Repr

structure RoleServerCommonConf where
  role : GoString := []
  sk : GoString := []
  allowUsers : List GoString := []
  deriving DecidableEq, Repr

structure HTTPProxyConf extends BaseProxyConf, DomainConf where
  locations : List GoString := []
  httpUser : GoString := []
  httpPwd : GoString := []
  hostHeaderRewrite : GoString := []
  headers : List (GoString × GoString) := []
  routeByHTTPUser : GoString := []
  deriving DecidableEq, Repr

structure HTTPSProxyConf extends BaseProxyConf, DomainConf where
  deriving DecidableEq, Repr

structure TCPProxyConf extends BaseProxyConf where
  remotePort : Int := 0
  deriving DecidableEq, Repr

structure UDPProxyConf extends BaseProxyConf where
  remotePort : Int := 0
  deriving DecidableEq, Repr

structure TCPMuxProxyConf extends BaseProxyConf, DomainConf where
  httpUser : GoString := []
  httpPwd : GoString := []
  routeByHTTPUser : GoString := []
  multiplexer : GoString := []
  deriving DecidableEq, Repr

structure STCPProxyConf extends BaseProxyConf, RoleServerCommonConf where
  deriving DecidableEq, Repr

structure XTCPProxyConf extends BaseProxyConf, RoleServerCommonConf where
  deriving DecidableEq, Repr

structure SUDPProxyConf extends BaseProxyConf, RoleServerCommonConf where
  deriving DecidableEq, Repr

inductive ProxyConf where
  | tcp (cfg : TCPProxyConf)
  | tcpMux (cfg : TCPMuxProxyConf)
  | udp (cfg : UDPProxyConf)
  | http (cfg : HTTPProxyConf)
  | https (cfg : HTTPSProxyConf)
  | stcp (cfg : STCPProxyConf)
  | xtcp (cfg : XTCPProxyConf)
  | sudp (cfg : SUDPProxyConf)
  deriving DecidableEq, Repr

/-! ## What the base and the parts do -/

section Parts

variable (parse : GoString → Nat → Except GoString Int)

namespace BaseProxyConf

def setDefaultValues (cfg : BaseProxyConf) : BaseProxyConf :=
  { cfg with
    localSvr := { localIP := GoString.lit "127.0.0.1" }
    bandwidthLimitMode := bandwidthLimitModeClient }

def marshalToMsg (cfg : BaseProxyConf) (m : NewProxy) : NewProxy :=
  { m with
    proxyName := cfg.proxyName
    proxyType := cfg.proxyType
    useEncryption := cfg.useEncryption
    useCompression := cfg.useCompression
    bandwidthLimit := cfg.bandwidthLimit.string
    bandwidthLimitMode :=
      if cfg.bandwidthLimitMode ≠ GoString.lit "client" then cfg.bandwidthLimitMode
      else m.bandwidthLimitMode
    group := cfg.group
    groupKey := cfg.groupKey
    metas := cfg.metas }

def unmarshalFromMsg (cfg : BaseProxyConf) (m : NewProxy) : BaseProxyConf :=
  { cfg with
    proxyName := m.proxyName
    proxyType := m.proxyType
    useEncryption := m.useEncryption
    useCompression := m.useCompression
    bandwidthLimit :=
      if m.bandwidthLimit ≠ [] then
        (BandwidthQuantity.newBandwidthQuantity parse m.bandwidthLimit).1
      else cfg.bandwidthLimit
    bandwidthLimitMode :=
      if m.bandwidthLimitMode ≠ [] then m.bandwidthLimitMode else cfg.bandwidthLimitMode
    group := m.group
    groupKey := m.groupKey
    metas := m.metas }

/-- The check of the limit mode, which both sides make. -/
def validateMode (cfg : BaseProxyConf) : Except GoString Unit :=
  if cfg.bandwidthLimitMode ≠ GoString.lit "client" ∧
      cfg.bandwidthLimitMode ≠ GoString.lit "server" then
    .error (GoString.lit "bandwidth_limit_mode should be client or server")
  else .ok ()

end BaseProxyConf

/-- `LocalSvrConf.validateForClient` -/
def LocalSvrConf.validateForClient (cfg : LocalSvrConf) : Except GoString Unit :=
  if cfg.plugin = [] then
    if cfg.localIP = [] then .error (GoString.lit "local ip or plugin is required")
    else if cfg.localPort ≤ 0 then .error (GoString.lit "error local_port")
    else .ok ()
  else .ok ()

def HealthCheckConf.validateForClient (cfg : HealthCheckConf) : Except GoString Unit :=
  if cfg.healthCheckType ≠ [] ∧ cfg.healthCheckType ≠ GoString.lit "tcp" ∧
      cfg.healthCheckType ≠ GoString.lit "http" then
    .error (GoString.lit "unsupport health check type")
  else if cfg.healthCheckType = GoString.lit "http" ∧ cfg.healthCheckURL = [] then
    .error (GoString.lit "health_check_url is required for health check type 'http'")
  else .ok ()

namespace BaseProxyConf

def validateForClient (cfg : BaseProxyConf) : Except GoString Unit := do
  if cfg.proxyProtocolVersion ≠ [] ∧ cfg.proxyProtocolVersion ≠ GoString.lit "v1" ∧
      cfg.proxyProtocolVersion ≠ GoString.lit "v2" then
    .error (GoString.lit "no support proxy protocol version: " ++ cfg.proxyProtocolVersion)
  cfg.validateMode
  cfg.localSvr.validateForClient
  cfg.healthCheck.validateForClient

def validateForServer (cfg : BaseProxyConf) : Except GoString Unit := cfg.validateMode

end BaseProxyConf

namespace DomainConf

def check (cfg : DomainConf) : Except GoString Unit :=
  if cfg.customDomains = [] ∧ cfg.subDomain = [] then
    .error (GoString.lit "custom_domains and subdomain should set at least one of them")
  else .ok ()

def validateForClient (cfg : DomainConf) : Except GoString Unit := cfg.check

/-- The custom domain is longer than `subdomain_host` and contains it. -/
def belongsTo (subDomainHost domain : GoString) : Bool :=
  subDomainHost != [] &&
    ((GoString.split subDomainHost GoString.dot).length <
      (GoString.split domain GoString.dot).length) &&
    GoString.contains domain subDomainHost

def validateSubDomain (cfg : DomainConf) (serverCfg : ServerCommonConf) :
    Except GoString Unit :=
  if cfg.subDomain = [] then .ok ()
  else if serverCfg.subDomainHost = [] then
    .error (GoString.lit
      "subdomain is not supported because this feature is not enabled in remote frps")
  else if GoString.contains cfg.subDomain (GoString.lit ".") ||
      GoString.contains cfg.subDomain (GoString.lit "*") then
    .error (GoString.lit "'.' and '*' is not supported in subdomain")
  else .ok ()

def validateForServer (cfg : DomainConf) (serverCfg : ServerCommonConf) :
    Except GoString Unit := do
  cfg.check
  match cfg.customDomains.find? (belongsTo serverCfg.subDomainHost) with
  | some domain =>
      .error (GoString.lit "custom domain [" ++ domain ++
        GoString.lit "] should not belong to subdomain_host [" ++ serverCfg.subDomainHost ++
        GoString.lit "]")
  | none => cfg.validateSubDomain serverCfg

/-- The check of a proxy's domains, with the name of the proxy before the error. -/
def validateForProxy (cfg : DomainConf) (serverCfg : ServerCommonConf) (proxyName : GoString) :
    Except GoString Unit :=
  (cfg.validateForServer serverCfg).mapError fun err =>
    GoString.lit "proxy [" ++ proxyName ++ GoString.lit "] domain conf check error: " ++ err

end DomainConf

namespace RoleServerCommonConf

def setDefaultValues (cfg : RoleServerCommonConf) : RoleServerCommonConf :=
  { cfg with role := GoString.lit "server" }

def marshalToMsg (cfg : RoleServerCommonConf) (m : NewProxy) : NewProxy :=
  { m with sk := cfg.sk, allowUsers := cfg.allowUsers }

def unmarshalFromMsg (cfg : RoleServerCommonConf) (m : NewProxy) : RoleServerCommonConf :=
  { cfg with sk := m.sk, allowUsers := m.allowUsers }

/-- The check of the role by the three types that have one. -/
def validateForClient (cfg : RoleServerCommonConf) : Except GoString Unit :=
  if cfg.role ≠ GoString.lit "server" then .error (GoString.lit "role should be 'server'")
  else .ok ()

end RoleServerCommonConf

end Parts

/-! ## The eight types -/

section Types

variable (parse : GoString → Nat → Except GoString Int)

namespace TCPProxyConf

def setDefaultValues (cfg : TCPProxyConf) : TCPProxyConf :=
  { cfg with toBaseProxyConf := cfg.toBaseProxyConf.setDefaultValues }

def unmarshalFromMsg (cfg : TCPProxyConf) (m : NewProxy) : TCPProxyConf :=
  { cfg with
    toBaseProxyConf := cfg.toBaseProxyConf.unmarshalFromMsg parse m
    remotePort := m.remotePort }

def marshalToMsg (cfg : TCPProxyConf) (m : NewProxy) : NewProxy :=
  { cfg.toBaseProxyConf.marshalToMsg m with remotePort := cfg.remotePort }

def validateForClient (cfg : TCPProxyConf) : Except GoString Unit :=
  cfg.toBaseProxyConf.validateForClient

def validateForServer (cfg : TCPProxyConf) (_serverCfg : ServerCommonConf) :
    Except GoString Unit :=
  cfg.toBaseProxyConf.validateForServer

end TCPProxyConf

namespace TCPMuxProxyConf

def setDefaultValues (cfg : TCPMuxProxyConf) : TCPMuxProxyConf :=
  { cfg with toBaseProxyConf := cfg.toBaseProxyConf.setDefaultValues }

def unmarshalFromMsg (cfg : TCPMuxProxyConf) (m : NewProxy) : TCPMuxProxyConf :=
  { cfg with
    toBaseProxyConf := cfg.toBaseProxyConf.unmarshalFromMsg parse m
    customDomains := m.customDomains
    subDomain := m.subDomain
    multiplexer := m.multiplexer
    httpUser := m.httpUser
    httpPwd := m.httpPwd
    routeByHTTPUser := m.routeByHTTPUser }

def marshalToMsg (cfg : TCPMuxProxyConf) (m : NewProxy) : NewProxy :=
  { cfg.toBaseProxyConf.marshalToMsg m with
    customDomains := cfg.customDomains
    subDomain := cfg.subDomain
    multiplexer := cfg.multiplexer
    httpUser := cfg.httpUser
    httpPwd := cfg.httpPwd
    routeByHTTPUser := cfg.routeByHTTPUser }

def validateForClient (cfg : TCPMuxProxyConf) : Except GoString Unit := do
  cfg.toBaseProxyConf.validateForClient
  cfg.toDomainConf.validateForClient
  if cfg.multiplexer ≠ httpConnectTCPMultiplexer then
    .error (GoString.lit "parse conf error: incorrect multiplexer [" ++ cfg.multiplexer ++
      GoString.lit "]")

def validateForServer (cfg : TCPMuxProxyConf) (serverCfg : ServerCommonConf) :
    Except GoString Unit := do
  cfg.toBaseProxyConf.validateForServer
  if cfg.multiplexer ≠ httpConnectTCPMultiplexer then
    .error (GoString.lit "proxy [" ++ cfg.proxyName ++ GoString.lit "] incorrect multiplexer [" ++
      cfg.multiplexer ++ GoString.lit "]")
  if cfg.multiplexer = httpConnectTCPMultiplexer ∧ serverCfg.tcpMuxHTTPConnectPort = 0 then
    .error (GoString.lit "proxy [" ++ cfg.proxyName ++
      GoString.lit "] type [tcpmux] with multiplexer [httpconnect] " ++
      GoString.lit "requires tcpmux_httpconnect_port configuration")
  cfg.toDomainConf.validateForProxy serverCfg cfg.proxyName

end TCPMuxProxyConf

namespace UDPProxyConf

def setDefaultValues (cfg : UDPProxyConf) : UDPProxyConf :=
  { cfg with toBaseProxyConf := cfg.toBaseProxyConf.setDefaultValues }

def unmarshalFromMsg (cfg : UDPProxyConf) (m : NewProxy) : UDPProxyConf :=
  { cfg with
    toBaseProxyConf := cfg.toBaseProxyConf.unmarshalFromMsg parse m
    remotePort := m.remotePort }

def marshalToMsg (cfg : UDPProxyConf) (m : NewProxy) : NewProxy :=
  { cfg.toBaseProxyConf.marshalToMsg m with remotePort := cfg.remotePort }

def validateForClient (cfg : UDPProxyConf) : Except GoString Unit :=
  cfg.toBaseProxyConf.validateForClient

def validateForServer (cfg : UDPProxyConf) (_serverCfg : ServerCommonConf) :
    Except GoString Unit :=
  cfg.toBaseProxyConf.validateForServer

end UDPProxyConf

namespace HTTPProxyConf

def setDefaultValues (cfg : HTTPProxyConf) : HTTPProxyConf :=
  { cfg with toBaseProxyConf := cfg.toBaseProxyConf.setDefaultValues }

def unmarshalFromMsg (cfg : HTTPProxyConf) (m : NewProxy) : HTTPProxyConf :=
  { cfg with
    toBaseProxyConf := cfg.toBaseProxyConf.unmarshalFromMsg parse m
    customDomains := m.customDomains
    subDomain := m.subDomain
    locations := m.locations
    hostHeaderRewrite := m.hostHeaderRewrite
    httpUser := m.httpUser
    httpPwd := m.httpPwd
    headers := m.headers
    routeByHTTPUser := m.routeByHTTPUser }

def marshalToMsg (cfg : HTTPProxyConf) (m : NewProxy) : NewProxy :=
  { cfg.toBaseProxyConf.marshalToMsg m with
    customDomains := cfg.customDomains
    subDomain := cfg.subDomain
    locations := cfg.locations
    hostHeaderRewrite := cfg.hostHeaderRewrite
    httpUser := cfg.httpUser
    httpPwd := cfg.httpPwd
    headers := cfg.headers
    routeByHTTPUser := cfg.routeByHTTPUser }

def validateForClient (cfg : HTTPProxyConf) : Except GoString Unit := do
  cfg.toBaseProxyConf.validateForClient
  cfg.toDomainConf.validateForClient

def validateForServer (cfg : HTTPProxyConf) (serverCfg : ServerCommonConf) :
    Except GoString Unit := do
  cfg.toBaseProxyConf.validateForServer
  if serverCfg.vhostHTTPPort = 0 then
    .error (GoString.lit "type [http] not support when vhost_http_port is not set")
  cfg.toDomainConf.validateForProxy serverCfg cfg.proxyName

end HTTPProxyConf

namespace HTTPSProxyConf

def setDefaultValues (cfg : HTTPSProxyConf) : HTTPSProxyConf :=
  { cfg with toBaseProxyConf := cfg.toBaseProxyConf.setDefaultValues }

def unmarshalFromMsg (cfg : HTTPSProxyConf) (m : NewProxy) : HTTPSProxyConf :=
  { cfg with
    toBaseProxyConf := cfg.toBaseProxyConf.unmarshalFromMsg parse m
    customDomains := m.customDomains
    subDomain := m.subDomain }

def marshalToMsg (cfg : HTTPSProxyConf) (m : NewProxy) : NewProxy :=
  { cfg.toBaseProxyConf.marshalToMsg m with
    customDomains := cfg.customDomains
    subDomain := cfg.subDomain }

def validateForClient (cfg : HTTPSProxyConf) : Except GoString Unit := do
  cfg.toBaseProxyConf.validateForClient
  cfg.toDomainConf.validateForClient

def validateForServer (cfg : HTTPSProxyConf) (serverCfg : ServerCommonConf) :
    Except GoString Unit := do
  cfg.toBaseProxyConf.validateForServer
  if serverCfg.vhostHTTPSPort = 0 then
    .error (GoString.lit "type [https] not support when vhost_https_port is not set")
  cfg.toDomainConf.validateForProxy serverCfg cfg.proxyName

end HTTPSProxyConf

namespace SUDPProxyConf

def setDefaultValues (cfg : SUDPProxyConf) : SUDPProxyConf :=
  { cfg with
    toBaseProxyConf := cfg.toBaseProxyConf.setDefaultValues
    toRoleServerCommonConf := cfg.toRoleServerCommonConf.setDefaultValues }

def unmarshalFromMsg (cfg : SUDPProxyConf) (m : NewProxy) : SUDPProxyConf :=
  { cfg with
    toBaseProxyConf := cfg.toBaseProxyConf.unmarshalFromMsg parse m
    toRoleServerCommonConf := cfg.toRoleServerCommonConf.unmarshalFromMsg m }

def marshalToMsg (cfg : SUDPProxyConf) (m : NewProxy) : NewProxy :=
  cfg.toRoleServerCommonConf.marshalToMsg (cfg.toBaseProxyConf.marshalToMsg m)

def validateForClient (cfg : SUDPProxyConf) : Except GoString Unit := do
  cfg.toBaseProxyConf.validateForClient
  cfg.toRoleServerCommonConf.validateForClient

def validateForServer (cfg : SUDPProxyConf) (_serverCfg : ServerCommonConf) :
    Except GoString Unit :=
  cfg.toBaseProxyConf.validateForServer

end SUDPProxyConf

namespace STCPProxyConf

def setDefaultValues (cfg : STCPProxyConf) : STCPProxyConf :=
  { cfg with
    toBaseProxyConf := cfg.toBaseProxyConf.setDefaultValues
    toRoleServerCommonConf := cfg.toRoleServerCommonConf.setDefaultValues }

def unmarshalFromMsg (cfg : STCPProxyConf) (m : NewProxy) : STCPProxyConf :=
  { cfg with
    toBaseProxyConf := cfg.toBaseProxyConf.unmarshalFromMsg parse m
    toRoleServerCommonConf := cfg.toRoleServerCommonConf.unmarshalFromMsg m }

def marshalToMsg (cfg : STCPProxyConf) (m : NewProxy) : NewProxy :=
  cfg.toRoleServerCommonConf.marshalToMsg (cfg.toBaseProxyConf.marshalToMsg m)

def validateForClient (cfg : STCPProxyConf) : Except GoString Unit := do
  cfg.toBaseProxyConf.validateForClient
  cfg.toRoleServerCommonConf.validateForClient

def validateForServer (cfg : STCPProxyConf) (_serverCfg : ServerCommonConf) :
    Except GoString Unit :=
  cfg.toBaseProxyConf.validateForServer

end STCPProxyConf

namespace XTCPProxyConf

def setDefaultValues (cfg : XTCPProxyConf) : XTCPProxyConf :=
  { cfg with
    toBaseProxyConf := cfg.toBaseProxyConf.setDefaultValues
    toRoleServerCommonConf := cfg.toRoleServerCommonConf.setDefaultValues }

def unmarshalFromMsg (cfg : XTCPProxyConf) (m : NewProxy) : XTCPProxyConf :=
  { cfg with
    toBaseProxyConf := cfg.toBaseProxyConf.unmarshalFromMsg parse m
    toRoleServerCommonConf := cfg.toRoleServerCommonConf.unmarshalFromMsg m }

def marshalToMsg (cfg : XTCPProxyConf) (m : NewProxy) : NewProxy :=
  cfg.toRoleServerCommonConf.marshalToMsg (cfg.toBaseProxyConf.marshalToMsg m)

def validateForClient (cfg : XTCPProxyConf) : Except GoString Unit := do
  cfg.toBaseProxyConf.validateForClient
  cfg.toRoleServerCommonConf.validateForClient

def validateForServer (cfg : XTCPProxyConf) (_serverCfg : ServerCommonConf) :
    Except GoString Unit :=
  cfg.toBaseProxyConf.validateForServer

end XTCPProxyConf

end Types

/-! ## A configuration of any type -/

def proxyConfTypeMap : List (GoString × ProxyConf) :=
  [(tcpProxy, .tcp {}), (tcpMuxProxy, .tcpMux {}), (udpProxy, .udp {}), (httpProxy, .http {}),
    (httpsProxy, .https {}), (stcpProxy, .stcp {}), (xtcpProxy, .xtcp {}), (sudpProxy, .sudp {})]

/-- `NewConfByType`; `none` if there is no such type. -/
def newConfByType (proxyType : GoString) : Option ProxyConf := proxyConfTypeMap.lookup proxyType

namespace ProxyConf

def getBaseConfig : ProxyConf → BaseProxyConf
  | .tcp cfg => cfg.toBaseProxyConf
  | .tcpMux cfg => cfg.toBaseProxyConf
  | .udp cfg => cfg.toBaseProxyConf
  | .http cfg => cfg.toBaseProxyConf
  | .https cfg => cfg.toBaseProxyConf
  | .stcp cfg => cfg.toBaseProxyConf
  | .xtcp cfg => cfg.toBaseProxyConf
  | .sudp cfg => cfg.toBaseProxyConf

def setDefaultValues : ProxyConf → ProxyConf
  | .tcp cfg => .tcp cfg.setDefaultValues
  | .tcpMux cfg => .tcpMux cfg.setDefaultValues
  | .udp cfg => .udp cfg.setDefaultValues
  | .http cfg => .http cfg.setDefaultValues
  | .https cfg => .https cfg.setDefaultValues
  | .stcp cfg => .stcp cfg.setDefaultValues
  | .xtcp cfg => .xtcp cfg.setDefaultValues
  | .sudp cfg => .sudp cfg.setDefaultValues

def unmarshalFromMsg (parse : GoString → Nat → Except GoString Int) (m : NewProxy) :
    ProxyConf → ProxyConf
  | .tcp cfg => .tcp (cfg.unmarshalFromMsg parse m)
  | .tcpMux cfg => .tcpMux (cfg.unmarshalFromMsg parse m)
  | .udp cfg => .udp (cfg.unmarshalFromMsg parse m)
  | .http cfg => .http (cfg.unmarshalFromMsg parse m)
  | .https cfg => .https (cfg.unmarshalFromMsg parse m)
  | .stcp cfg => .stcp (cfg.unmarshalFromMsg parse m)
  | .xtcp cfg => .xtcp (cfg.unmarshalFromMsg parse m)
  | .sudp cfg => .sudp (cfg.unmarshalFromMsg parse m)

def marshalToMsg (m : NewProxy) : ProxyConf → NewProxy
  | .tcp cfg => cfg.marshalToMsg m
  | .tcpMux cfg => cfg.marshalToMsg m
  | .udp cfg => cfg.marshalToMsg m
  | .http cfg => cfg.marshalToMsg m
  | .https cfg => cfg.marshalToMsg m
  | .stcp cfg => cfg.marshalToMsg m
  | .xtcp cfg => cfg.marshalToMsg m
  | .sudp cfg => cfg.marshalToMsg m

def validateForClient : ProxyConf → Except GoString Unit
  | .tcp cfg => cfg.validateForClient
  | .tcpMux cfg => cfg.validateForClient
  | .udp cfg => cfg.validateForClient
  | .http cfg => cfg.validateForClient
  | .https cfg => cfg.validateForClient
  | .stcp cfg => cfg.validateForClient
  | .xtcp cfg => cfg.validateForClient
  | .sudp cfg => cfg.validateForClient

def validateForServer (serverCfg : ServerCommonConf) : ProxyConf → Except GoString Unit
  | .tcp cfg => cfg.validateForServer serverCfg
  | .tcpMux cfg => cfg.validateForServer serverCfg
  | .udp cfg => cfg.validateForServer serverCfg
  | .http cfg => cfg.validateForServer serverCfg
  | .https cfg => cfg.validateForServer serverCfg
  | .stcp cfg => cfg.validateForServer serverCfg
  | .xtcp cfg => cfg.validateForServer serverCfg
  | .sudp cfg => cfg.validateForServer serverCfg

end ProxyConf

/-- `DefaultProxyConf` -/
def defaultProxyConf (proxyType : GoString) : Option ProxyConf :=
  (newConfByType proxyType).map ProxyConf.setDefaultValues

/-- The message with the type that an empty one stands for. -/
def NewProxy.withType (m : NewProxy) : NewProxy :=
  if m.proxyType = [] then { m with proxyType := tcpProxy } else m

/-- `NewProxyConfFromMsg` -/
def newProxyConfFromMsg (parse : GoString → Nat → Except GoString Int) (m : NewProxy)
    (serverCfg : ServerCommonConf) : Except GoString ProxyConf :=
  let m := m.withType
  match defaultProxyConf m.proxyType with
  | none =>
      .error (GoString.lit "proxy [" ++ m.proxyName ++ GoString.lit "] type [" ++ m.proxyType ++
        GoString.lit "] error")
  | some conf => do
      let conf := conf.unmarshalFromMsg parse m
      conf.validateForServer serverCfg
      return conf

/-! ## What arrives at the server -/

/-- The base as the server has it: the settings of the client's side are not sent. -/
def BaseProxyConf.asReceived (cfg : BaseProxyConf) : BaseProxyConf :=
  { cfg with
    proxyType := if cfg.proxyType = [] then tcpProxy else cfg.proxyType
    proxyProtocolVersion := []
    localSvr := { localIP := GoString.lit "127.0.0.1" }
    healthCheck := {} }

namespace ProxyConf

/-- The configuration as the server has it. -/
def asReceived : ProxyConf → ProxyConf
  | .tcp cfg => .tcp { cfg with toBaseProxyConf := cfg.toBaseProxyConf.asReceived }
  | .tcpMux cfg => .tcpMux { cfg with toBaseProxyConf := cfg.toBaseProxyConf.asReceived }
  | .udp cfg => .udp { cfg with toBaseProxyConf := cfg.toBaseProxyConf.asReceived }
  | .http cfg => .http { cfg with toBaseProxyConf := cfg.toBaseProxyConf.asReceived }
  | .https cfg => .https { cfg with toBaseProxyConf := cfg.toBaseProxyConf.asReceived }
  | .stcp cfg => .stcp { cfg with toBaseProxyConf := cfg.toBaseProxyConf.asReceived }
  | .xtcp cfg => .xtcp { cfg with toBaseProxyConf := cfg.toBaseProxyConf.asReceived }
  | .sudp cfg => .sudp { cfg with toBaseProxyConf := cfg.toBaseProxyConf.asReceived }

def typeName : ProxyConf → GoString
  | .tcp _ => tcpProxy
  | .tcpMux _ => tcpMuxProxy
  | .udp _ => udpProxy
  | .http _ => httpProxy
  | .https _ => httpsProxy
  | .stcp _ => stcpProxy
  | .xtcp _ => xtcpProxy
  | .sudp _ => sudpProxy

/-- The type's name stands in the settings; a tcp proxy may leave it empty. -/
def Named (conf : ProxyConf) : Prop :=
  conf.getBaseConfig.proxyType = conf.typeName ∨
    conf.typeName = tcpProxy ∧ conf.getBaseConfig.proxyType = []

end ProxyConf

section Wire

variable {parse : GoString → Nat → Except GoString Int}

theorem bind_eq_ok {ε α β : Type} {x : Except ε α} {f : α → Except ε β} {b : β}
    (ok : (x >>= f) = .ok b) : ∃ a, x = .ok a ∧ f a = .ok b := by
  cases x with
  | error err => cases ok
  | ok a => exact ⟨a, rfl, ok⟩

theorem BaseProxyConf.mode_of_validate {cfg : BaseProxyConf}
    (valid : cfg.validateMode = .ok ()) : cfg.bandwidthLimitMode ≠ [] := by
  intro empty
  unfold validateMode at valid
  rw [empty, if_pos (by decide)] at valid
  cases valid

theorem BaseProxyConf.validateMode_of_client {cfg : BaseProxyConf}
    (valid : cfg.validateForClient = .ok ()) : cfg.validateMode = .ok () := by
  unfold validateForClient at valid
  split at valid
  · cases valid
  · obtain ⟨_, mode, -⟩ := bind_eq_ok valid
    exact mode

theorem RoleServerCommonConf.role_of_validate {cfg : RoleServerCommonConf}
    (valid : cfg.validateForClient = .ok ()) : cfg.role = GoString.lit "server" := by
  unfold validateForClient at valid
  split at valid
  · cases valid
  · rename_i role
    exact Decidable.not_not.1 role

/-- A configuration that the client accepts names its limit mode. -/
theorem ProxyConf.mode_of_client {conf : ProxyConf} (valid : conf.validateForClient = .ok ()) :
    conf.getBaseConfig.bandwidthLimitMode ≠ [] := by
  apply BaseProxyConf.mode_of_validate
  apply BaseProxyConf.validateMode_of_client
  cases conf with
  | tcp cfg => exact valid
  | udp cfg => exact valid
  | tcpMux cfg => exact (bind_eq_ok valid).elim fun _ base => base.1
  | http cfg => exact (bind_eq_ok valid).elim fun _ base => base.1
  | https cfg => exact (bind_eq_ok valid).elim fun _ base => base.1
  | stcp cfg => exact (bind_eq_ok valid).elim fun _ base => base.1
  | xtcp cfg => exact (bind_eq_ok valid).elim fun _ base => base.1
  | sudp cfg => exact (bind_eq_ok valid).elim fun _ base => base.1

/-- The base of a message, read into the defaults. -/
theorem BaseProxyConf.unmarshalFromMsg_marshalToMsg {cfg : BaseProxyConf} (proxyType : GoString)
    (built : ∃ s, cfg.bandwidthLimit = (BandwidthQuantity.newBandwidthQuantity parse s).1)
    (mode : cfg.bandwidthLimitMode ≠ []) :
    (setDefaultValues {}).unmarshalFromMsg parse
        { cfg.marshalToMsg {} with proxyType := proxyType } =
      { cfg.asReceived with proxyType := proxyType } := by
  obtain ⟨s, built⟩ := built
  have limit : (if cfg.bandwidthLimit.s ≠ [] then
      (BandwidthQuantity.newBandwidthQuantity parse cfg.bandwidthLimit.s).1 else {}) =
        cfg.bandwidthLimit := by
    have again : let q := (BandwidthQuantity.newBandwidthQuantity parse s).1
        if q.s = [] then q = {} else (BandwidthQuantity.newBandwidthQuantity parse q.s).1 = q :=
      BandwidthQuantity.newBandwidthQuantity_s s
    rw [← built] at again
    split
    · rename_i text
      rwa [if_neg text] at again
    · rename_i text
      rw [if_pos (Decidable.not_not.1 text)] at again
      exact again.symm
  have sentMode : (if (if cfg.bandwidthLimitMode ≠ GoString.lit "client" then
      cfg.bandwidthLimitMode else []) ≠ [] then
        (if cfg.bandwidthLimitMode ≠ GoString.lit "client" then cfg.bandwidthLimitMode else [])
      else bandwidthLimitModeClient) = cfg.bandwidthLimitMode := by
    by_cases client : cfg.bandwidthLimitMode = GoString.lit "client"
    · rw [client]
      rfl
    · rw [if_pos client, if_pos mode]
  show BaseProxyConf.mk _ _ _ _ _ _ _ _ _ _ _ _ = BaseProxyConf.mk _ _ _ _ _ _ _ _ _ _ _ _
  congr 1

theorem newProxyConfFromMsg_of_default {m : NewProxy} {serverCfg : ServerCommonConf}
    {conf : ProxyConf} (known : defaultProxyConf m.withType.proxyType = some conf) :
    newProxyConfFromMsg parse m serverCfg =
      ((conf.unmarshalFromMsg parse m.withType).validateForServer serverCfg).map
        fun _ => conf.unmarshalFromMsg parse m.withType := by
  unfold newProxyConfFromMsg
  dsimp only
  rw [known]
  rfl

theorem ProxyConf.proxyType_marshalToMsg (conf : ProxyConf) (m : NewProxy) :
    (conf.marshalToMsg m).proxyType = conf.getBaseConfig.proxyType := by
  cases conf <;> rfl

theorem ProxyConf.typeName_ne_nil (conf : ProxyConf) : conf.typeName ≠ [] := by
  have names : ∀ name ∈ [tcpProxy, tcpMuxProxy, udpProxy, httpProxy, httpsProxy, stcpProxy,
      xtcpProxy, sudpProxy], name ≠ [] := by decide
  cases conf <;> exact names _ (by simp [typeName])

/-- The type that the server takes a named configuration for. -/
theorem ProxyConf.typeName_of_named {conf : ProxyConf} (named : conf.Named) :
    (if conf.getBaseConfig.proxyType = [] then tcpProxy else conf.getBaseConfig.proxyType) =
      conf.typeName := by
  rcases named with same | ⟨tcp, empty⟩
  · have nonempty : conf.getBaseConfig.proxyType ≠ [] := same ▸ conf.typeName_ne_nil
    rw [if_neg nonempty, same]
  · rw [if_pos empty, tcp]

theorem ProxyConf.withType_marshalToMsg {conf : ProxyConf} (named : conf.Named) :
    (conf.marshalToMsg {}).withType =
      { conf.marshalToMsg {} with proxyType := conf.typeName } := by
  unfold NewProxy.withType
  rw [← typeName_of_named named, conf.proxyType_marshalToMsg]
  split
  · rfl
  · rw [← conf.proxyType_marshalToMsg {}]

theorem ProxyConf.asReceived_proxyType {conf : ProxyConf} (named : conf.Named) :
    { conf.getBaseConfig.asReceived with proxyType := conf.typeName } =
      conf.getBaseConfig.asReceived := by
  rw [← typeName_of_named named]
  rfl

/-- A message, read into the defaults of the type that sent it. -/
theorem ProxyConf.unmarshalFromMsg_marshalToMsg {conf : ProxyConf} (named : conf.Named)
    (built : ∃ s, conf.getBaseConfig.bandwidthLimit =
      (BandwidthQuantity.newBandwidthQuantity parse s).1)
    (client : conf.validateForClient = .ok ()) :
    ∃ zero, defaultProxyConf conf.typeName = some zero ∧
      zero.unmarshalFromMsg parse { conf.marshalToMsg {} with proxyType := conf.typeName } =
        conf.asReceived := by
  have base := BaseProxyConf.unmarshalFromMsg_marshalToMsg conf.typeName built
    (mode_of_client client)
  rw [asReceived_proxyType named] at base
  cases conf with
  | tcp cfg =>
      exact ⟨_, rfl, congrArg (fun b => ProxyConf.tcp { cfg with toBaseProxyConf := b }) base⟩
  | udp cfg =>
      exact ⟨_, rfl, congrArg (fun b => ProxyConf.udp { cfg with toBaseProxyConf := b }) base⟩
  | tcpMux cfg =>
      exact ⟨_, rfl,
        congrArg (fun b => ProxyConf.tcpMux { cfg with toBaseProxyConf := b }) base⟩
  | http cfg =>
      exact ⟨_, rfl, congrArg (fun b => ProxyConf.http { cfg with toBaseProxyConf := b }) base⟩
  | https cfg =>
      exact ⟨_, rfl, congrArg (fun b => ProxyConf.https { cfg with toBaseProxyConf := b }) base⟩
  | stcp cfg =>
      have role := RoleServerCommonConf.role_of_validate (bind_eq_ok client).choose_spec.2
      obtain ⟨b, role', sk, users⟩ := cfg
      cases role
      exact ⟨_, rfl, congrArg (fun b => ProxyConf.stcp ⟨b, _⟩) base⟩
  | xtcp cfg =>
      have role := RoleServerCommonConf.role_of_validate (bind_eq_ok client).choose_spec.2
      obtain ⟨b, role', sk, users⟩ := cfg
      cases role
      exact ⟨_, rfl, congrArg (fun b => ProxyConf.xtcp ⟨b, _⟩) base⟩
  | sudp cfg =>
      have role := RoleServerCommonConf.role_of_validate (bind_eq_ok client).choose_spec.2
      obtain ⟨b, role', sk, users⟩ := cfg
      cases role
      exact ⟨_, rfl, congrArg (fun b => ProxyConf.sudp ⟨b, _⟩) base⟩

/-- The server checks the configuration as it arrives, and takes it if the check passes. -/
theorem newProxyConfFromMsg_marshalToMsg {conf : ProxyConf} (named : conf.Named)
    (built : ∃ s, conf.getBaseConfig.bandwidthLimit =
      (BandwidthQuantity.newBandwidthQuantity parse s).1)
    (client : conf.validateForClient = .ok ()) (serverCfg : ServerCommonConf) :
    newProxyConfFromMsg parse (conf.marshalToMsg {}) serverCfg =
      (conf.asReceived.validateForServer serverCfg).map fun _ => conf.asReceived := by
  obtain ⟨zero, known, read⟩ := ProxyConf.unmarshalFromMsg_marshalToMsg named built client
  have sent := ProxyConf.withType_marshalToMsg named
  have known' : defaultProxyConf (conf.marshalToMsg {}).withType.proxyType = some zero := by
    rw [sent]
    exact known
  rw [newProxyConfFromMsg_of_default known', sent, read]

/-- **The wire.** What the server accepts of a configuration that the client accepts is
that configuration, with the type in place of an empty one and without the settings of
the client's side. -/
theorem conf_survives_wire (serverCfg : ServerCommonConf) (conf received : ProxyConf)
    (named : conf.Named)
    (built : ∃ s, conf.getBaseConfig.bandwidthLimit =
      (BandwidthQuantity.newBandwidthQuantity parse s).1)
    (client : conf.validateForClient = .ok ())
    (server : newProxyConfFromMsg parse (conf.marshalToMsg {}) serverCfg = .ok received) :
    received = conf.asReceived := by
  rw [newProxyConfFromMsg_marshalToMsg named built client] at server
  cases checked : conf.asReceived.validateForServer serverCfg with
  | error err =>
      rw [checked] at server
      cases server
  | ok _ =>
      rw [checked] at server
      exact (Except.ok.inj server).symm

/-- `ParseFloat` of decimal digits, times the unit. -/
def parseDigits (s : GoString) (base : Nat) : Except GoString Int :=
  if s ≠ [] ∧ s.all (fun b => 48 ≤ b ∧ b ≤ 57) then
    .ok (Int.ofNat (s.foldl (fun n b => n * 10 + (b.toNat - 48)) 0 * base))
  else .error (GoString.lit "invalid syntax")

/-- A tcpmux proxy with a limit that the server is to keep. -/
def muxConf : TCPMuxProxyConf where
  proxyName := GoString.lit "alice.ssh"
  proxyType := GoString.lit "tcpmux"
  useEncryption := true
  bandwidthLimit := ⟨GoString.lit "10MB", 10485760⟩
  bandwidthLimitMode := GoString.lit "server"
  localSvr := { localIP := GoString.lit "10.0.0.2", localPort := 22 }
  customDomains := [GoString.lit "ssh.example.com"]
  routeByHTTPUser := GoString.lit "alice"
  multiplexer := GoString.lit "httpconnect"

theorem conf_survives_wire_mux : ∃ received,
    newProxyConfFromMsg parseDigits ((ProxyConf.tcpMux muxConf).marshalToMsg {})
      ⟨80, 443, 1337, []⟩ = .ok received ∧ received = (ProxyConf.tcpMux muxConf).asReceived :=
  have built : muxConf.bandwidthLimit =
      (BandwidthQuantity.newBandwidthQuantity parseDigits (GoString.lit " 10MB")).1 := by decide
  ⟨_, rfl, conf_survives_wire ⟨80, 443, 1337, []⟩ (.tcpMux muxConf) _ (.inl rfl) ⟨_, built⟩
    rfl rfl⟩

end Wire

end ChmlFrp.Config
